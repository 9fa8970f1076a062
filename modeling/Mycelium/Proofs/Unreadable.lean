import Mathlib.Data.List.Infix
import Mathlib.Data.List.TakeWhile
import Mycelium.File

/-!
# Files that cannot be read

A file is refused for one of three things that anyone can see in it.

* Its bytes are not the UTF-8 of any text.
* There is a run of digits in its text that is longer than an integer may be.
* More brackets are opened in its text than values may stand in each other.

`Reads` says the same of all readers at once: what a reader is given ends with what it
leaves, and holds the reason of its fault.  One lemma for each reader shows it, by induction
on the fuel where readers call each other.  `json?_eq_error_iff` and `json?_eq_ok_iff` say
what comes of a whole file.
-/

namespace Mycelium

namespace Json

variable {α β : Type} {room : Nat} {s t : Text}

/-- How many characters of a text might open an array or an object. -/
def openings (s : Text) : Nat := s.countP fun c => c = '[' || c = '\x7b'

/-- What a reader comes to that is given a text, and room for some depth: a value and what follows
it, or a fault that has its reason in the text. -/
inductive Reads (room : Nat) (s : Text) : Except Fault (α × Text) → Prop where
  | value (a : α) {rest : Text} (left : rest <:+ s) : Reads room s (.ok (a, rest))
  | malformed : Reads room s (.error .malformed)
  | overlong {digits : Text} (run : ∀ c ∈ digits, Text.isAsciiDigit c = true)
      (long : Number.digitLimit < digits.length) (within : digits <:+: s) :
      Reads room s (.error (.number (.tooLong digits.length)))
  | tooDeep (kind : Text) (deep : room < openings s) : Reads room s (.error (.tooDeep kind))

namespace Reads

variable {r : Except Fault (α × Text)}

/-- What holds of the end of a text holds of the text. -/
theorem of_suffix (h : Reads room s r) (left : s <:+ t) : Reads room t r := by
  cases h with
  | value a hrest => exact .value a (hrest.trans left)
  | malformed => exact .malformed
  | overlong run long within => exact .overlong run long (within.trans left.isInfix)
  | tooDeep kind deep => exact .tooDeep kind (deep.trans_le (left.sublist.countP_le))

/-- Behind an opening bracket there is less room. -/
theorem inside (h : Reads room s r) {c : Char} (opens : c = '[' ∨ c = '\x7b') :
    Reads (room + 1) (c :: s) r := by
  cases h with
  | value a hrest => exact .value a (hrest.trans (List.suffix_cons c s))
  | malformed => exact .malformed
  | overlong run long within => exact .overlong run long (List.infix_cons within)
  | tooDeep kind deep =>
      have hcount : openings (c :: s) = openings s + 1 := by
        cases opens with
        | inl hc => simp [openings, hc]
        | inr hc => simp [openings, hc]
      exact .tooDeep kind (by omega)

theorem map (h : Reads room s r) (f : α → β) :
    Reads room s (r.map fun p => (f p.1, p.2)) := by
  cases h with
  | value a hrest => exact .value (f a) hrest
  | malformed => exact .malformed
  | overlong run long within => exact .overlong run long within
  | tooDeep kind deep => exact .tooDeep kind deep

theorem bind (h : Reads room s r) {f : α × Text → Except Fault (β × Text)}
    (next : ∀ a rest, Reads room rest (f (a, rest))) : Reads room s (r >>= f) := by
  cases h with
  | value a hrest => exact (next a _).of_suffix hrest
  | malformed => exact .malformed
  | overlong run long within => exact .overlong run long within
  | tooDeep kind deep => exact .tooDeep kind deep

end Reads

theorem skipSpace_suffix (s : Text) : skipSpace s <:+ s := List.dropWhile_suffix _

theorem suffix_of_skipSpace {c : Char} {rest : Text} (h : skipSpace s = c :: rest) : rest <:+ s :=
  (h ▸ List.suffix_cons c rest).trans (skipSpace_suffix s)

/-! ## Numbers -/

theorem takeWhole_eq_some {whole rest : Text} (h : takeWhole s = some (whole, rest)) :
    s = whole ++ rest ∧ ∀ c ∈ whole, Text.isAsciiDigit c = true := by
  rw [takeWhole.eq_def] at h
  split at h
  · cases h
    exact ⟨rfl, List.forall_mem_singleton.2 rfl⟩
  · dsimp only [takeDigits] at h
    split at h
    · cases h
    · cases h
      exact ⟨List.takeWhile_append_dropWhile.symm, fun c hc => List.mem_takeWhile_imp hc⟩

theorem takeFraction_suffix {ds rest : Text} (h : takeFraction s = some (ds, rest)) :
    rest <:+ s := by
  rw [takeFraction.eq_def] at h
  split at h
  · dsimp only [takeDigits] at h
    split at h
    · cases h
    · cases h
      exact (List.dropWhile_suffix _).trans (List.suffix_cons _ _)
  · cases h

theorem takeSign_suffix (s : Text) : (Number.takeSign s).2 <:+ s := by
  rw [Number.takeSign.eq_def]
  split
  · exact List.suffix_cons _ _
  · exact List.suffix_cons _ _
  · exact List.suffix_rfl

theorem takeExponent_suffix {e : Int} {rest : Text} (h : takeExponent s = some (e, rest)) :
    rest <:+ s := by
  rw [takeExponent.eq_def] at h
  split at h
  · next c r =>
      split at h
      · dsimp only [takeDigits] at h
        split at h
        · cases h
        · cases h
          exact (List.dropWhile_suffix _).trans
            ((takeSign_suffix r).trans (List.suffix_cons c r))
      · cases h
  · cases h

theorem reads_readNumber (room : Nat) (negative : Bool) (s : Text) :
    Reads room s (readNumber negative s) := by
  rw [readNumber]
  split
  · exact .malformed
  · next whole rest hwhole =>
      obtain ⟨rfl, hdigits⟩ := takeWhole_eq_some hwhole
      have hfraction : ((takeFraction rest).map (·.2)).getD rest <:+ rest := by
        cases h : takeFraction rest with
        | none => exact List.suffix_rfl
        | some p => exact takeFraction_suffix h
      have hexponent (t : Text) : ((takeExponent t).map (·.2)).getD t <:+ t := by
        cases h : takeExponent t with
        | none => exact List.suffix_rfl
        | some p => exact takeExponent_suffix h
      dsimp only
      split
      · split
        · next hlong => exact .overlong hdigits hlong (List.prefix_append _ _).isInfix
        · exact .value _ (List.suffix_append _ _)
      · exact .value _ ((hexponent _).trans (hfraction.trans (List.suffix_append _ _)))

/-! ## Strings -/

theorem suffix_of_map {r : Option (Text × Text)} {f : Text × Text → Text} {p : Text × Text}
    (h : r.map (fun p => (f p, p.2)) = some p) (left : ∀ {p}, r = some p → p.2 <:+ t) :
    p.2 <:+ t := by
  obtain ⟨q, hq, rfl⟩ := Option.map_eq_some_iff.1 h
  exact left (p := q) hq

theorem readString_suffix {high : Option Nat} {p : Text × Text} (h : readString high s = some p) :
    p.2 <:+ s := by
  -- an escaped code unit takes six characters
  have unit {a b c d : Char} {p r : Text} (left : p <:+ r) :
      p <:+ '\\' :: 'u' :: a :: b :: c :: d :: r :=
    left.trans (List.suffix_append [_, _, _, _, _, _] r)
  fun_induction readString high s generalizing p
  case case1 | case2 | case10 | case11 => cases h
  case case3 ih | case4 ih | case5 ih | case7 ih => exact unit (suffix_of_map h ih)
  case case6 ih => exact unit (ih h)
  case case8 =>
      cases h
      exact List.suffix_cons _ _
  case case9 ih =>
      obtain ⟨x, -, hrest⟩ := Option.bind_eq_some_iff.1 h
      exact (suffix_of_map hrest ih).trans (List.suffix_append [_, _] _)
  case case12 ih => exact (suffix_of_map h ih).trans (List.suffix_cons _ _)

/-! ## Values -/

theorem afterWord?_suffix {word : String} {rest : Text} (h : afterWord? word s = some rest) :
    rest <:+ s := by
  rw [afterWord?] at h
  split at h
  · cases h
    exact List.drop_suffix _ s
  · cases h

/-- With some fuel all readers come to what they may come to. -/
structure ReadsWith (fuel : Nat) : Prop where
  value : ∀ room s, Reads room s (readValue room fuel s)
  items : ∀ room s, Reads room s (readItems room fuel s)
  members : ∀ room s, Reads room s (readMembers room fuel s)

theorem reads_readValue {fuel : Nat} (reads : ReadsWith fuel) (room : Nat) (s : Text) :
    Reads room s (readValue room (fuel + 1) s) := by
  rw [readValue.eq_def]
  dsimp only
  split
  · next r =>
      split
      · next t rest h => exact .value _ ((readString_suffix h).trans (List.suffix_cons _ r))
      · exact .malformed
  · next r =>
      split
      · exact .tooDeep _ (by simp [openings])
      · next h => exact .value _ ((suffix_of_skipSpace h).trans (List.suffix_cons _ r))
      · next room _ =>
          have hmembers := (reads.members room (skipSpace r)).map
            fun ms => Json.obj (Entries.putAll [] ms)
          exact (hmembers.of_suffix (skipSpace_suffix r)).inside (.inr rfl)
  · next r =>
      split
      · exact .tooDeep _ (by simp [openings])
      · next h => exact .value _ ((suffix_of_skipSpace h).trans (List.suffix_cons _ r))
      · next room _ =>
          have hitems := (reads.items room (skipSpace r)).map Json.arr
          exact (hitems.of_suffix (skipSpace_suffix r)).inside (.inl rfl)
  · next r =>
      split
      · next h => exact .value _ ((afterWord?_suffix h).trans (List.suffix_cons _ r))
      · exact (reads_readNumber room true r).of_suffix (List.suffix_cons _ r)
  · split
    case h_1 h | h_2 h _ | h_3 h _ _ | h_4 h _ _ _ | h_5 h _ _ _ _ =>
      exact .value _ (afterWord?_suffix h)
    case h_6 => exact reads_readNumber room false s

theorem reads_readItems {fuel : Nat} (reads : ReadsWith fuel) (room : Nat) (s : Text) :
    Reads room s (readItems room (fuel + 1) s) := by
  rw [readItems.eq_def]
  refine (reads.value room s).bind fun v rest => ?_
  dsimp only
  split
  · next h => exact .value _ (suffix_of_skipSpace h)
  · next r h =>
      have hmore : Reads room r (readItems room fuel (skipSpace r)) :=
        (reads.items room _).of_suffix (skipSpace_suffix r)
      exact (hmore.of_suffix (suffix_of_skipSpace h)).bind fun vs r => .value _ List.suffix_rfl
  · exact .malformed

theorem reads_readMembers {fuel : Nat} (reads : ReadsWith fuel) (room : Nat) (s : Text) :
    Reads room s (readMembers room (fuel + 1) s) := by
  rw [readMembers.eq_def]
  dsimp only
  split
  · next r =>
      split
      · exact .malformed
      · next name rest hname =>
          have hrest : rest <:+ '\x22' :: r :=
            (readString_suffix hname).trans (List.suffix_cons _ r)
          split
          · next r hcolon =>
              have hvalue : Reads room r (readValue room fuel (skipSpace r)) :=
                (reads.value room _).of_suffix (skipSpace_suffix r)
              refine (hvalue.of_suffix ((suffix_of_skipSpace hcolon).trans hrest)).bind ?_
              intro v rest
              dsimp only
              split
              · next h => exact .value _ (suffix_of_skipSpace h)
              · next r h =>
                  have hmore : Reads room r (readMembers room fuel (skipSpace r)) :=
                    (reads.members room _).of_suffix (skipSpace_suffix r)
                  exact (hmore.of_suffix (suffix_of_skipSpace h)).bind
                    fun ms r => .value _ List.suffix_rfl
              · exact .malformed
          · exact .malformed
  · exact .malformed

/-- All readers together come to what they may come to, by induction on the fuel. -/
theorem readsWith (fuel : Nat) : ReadsWith fuel := by
  induction fuel with
  | zero =>
      constructor
      · intro room s
        rw [readValue]
        exact .malformed
      · intro room s
        rw [readItems]
        exact .malformed
      · intro room s
        rw [readMembers]
        exact .malformed
  | succ fuel ih =>
      constructor
      · exact reads_readValue ih
      · exact reads_readItems ih
      · exact reads_readMembers ih

/-- A text as a whole comes to what a value at its start may come to, and leaves nothing. -/
theorem reads_parse (s : Text) : Reads depthLimit s ((parse s).map fun v => (v, [])) := by
  have hvalue : Reads depthLimit s (readValue depthLimit (s.length + 1) (skipSpace s)) :=
    ((readsWith _).value _ _).of_suffix (skipSpace_suffix s)
  have hparse : (parse s).map (fun v => (v, ([] : Text))) =
      readValue depthLimit (s.length + 1) (skipSpace s) >>= fun p =>
        if (skipSpace p.2).isEmpty then .ok (p.1, []) else .error .malformed := by
    rw [parse]
    cases readValue depthLimit (s.length + 1) (skipSpace s) with
    | error f => rfl
    | ok p =>
        by_cases h : (skipSpace p.2).isEmpty = true <;>
          simp [h, bind, Except.bind, pure, Except.pure, Except.map]
  rw [hparse]
  refine hvalue.bind fun v rest => ?_
  dsimp only
  split
  · exact .value v (List.nil_suffix)
  · exact .malformed

end Json

namespace File

/-- What a file holds.  There is no value where there is no text, and in a text that does not
follow the grammar. -/
inductive Holds : File → Option Json → Prop where
  | missing : Holds .missing none
  | directory : Holds .directory none
  | malformed {s : Text} (stops : Json.parse s = .error .malformed) : Holds (ofText s) none
  | value {s : Text} {v : Json} (reads : Json.parse s = .ok v) : Holds (ofText s) (some v)

/-- A file is refused with a fault. -/
inductive IsRefused : File → Fault → Prop where
  | notUtf8 {content : ByteArray} (foreign : ∀ s, content ≠ Text.toUtf8 s) :
      IsRefused (.bytes content) .notUtf8
  | overlong {s digits : Text}
      (stops : Json.parse s = .error (.number (.tooLong digits.length)))
      (run : ∀ c ∈ digits, Text.isAsciiDigit c = true)
      (long : Number.digitLimit < digits.length) (within : digits <:+: s) :
      IsRefused (ofText s) (.number (.tooLong digits.length))
  | tooDeep {s kind : Text} (stops : Json.parse s = .error (.tooDeep kind))
      (deep : Json.depthLimit < Json.openings s) : IsRefused (ofText s) (.tooDeep kind)

variable {file : File} {held : Option Json} {f : Fault}

theorem json?_ofText (s : Text) : (ofText s).json? = jsonOfText? s := by
  rw [json?, text?_ofText]
  rfl

theorem Holds.json?_eq (h : file.Holds held) : file.json? = .ok held := by
  cases h with
  | missing => rfl
  | directory => rfl
  | malformed stops => rw [json?_ofText, jsonOfText?, stops]
  | value reads => rw [json?_ofText, jsonOfText?, reads]

theorem IsRefused.json?_eq (h : file.IsRefused f) : file.json? = .error f := by
  cases h with
  | @notUtf8 content foreign =>
      have hnone : Text.ofUtf8? content = none := by
        cases hs : Text.ofUtf8? content with
        | none => rfl
        | some s => exact absurd (Text.ofUtf8?_eq_some_iff.1 hs) (foreign s)
      simp [json?, text?, hnone, bind, Except.bind]
  | overlong stops => rw [json?_ofText, jsonOfText?, stops]
  | tooDeep stops => rw [json?_ofText, jsonOfText?, stops]

/-- The text of a file is refused or holds something. -/
theorem refused_or_holds_ofText (s : Text) :
    (∃ f, (ofText s).IsRefused f) ∨ ∃ held, (ofText s).Holds held := by
  have hreads := Json.reads_parse s
  cases hparse : Json.parse s with
  | ok v => exact .inr ⟨some v, .value hparse⟩
  | error f =>
      rw [hparse] at hreads
      cases hreads with
      | malformed => exact .inr ⟨none, .malformed hparse⟩
      | overlong run long within => exact .inl ⟨_, .overlong hparse run long within⟩
      | tooDeep kind deep => exact .inl ⟨_, .tooDeep hparse deep⟩

/-- A file is refused or holds something. -/
theorem refused_or_holds (file : File) :
    (∃ f, file.IsRefused f) ∨ ∃ held, file.Holds held := by
  cases file with
  | missing => exact .inr ⟨none, .missing⟩
  | directory => exact .inr ⟨none, .directory⟩
  | bytes content =>
      by_cases h : ∃ s, content = Text.toUtf8 s
      · obtain ⟨s, rfl⟩ := h
        exact refused_or_holds_ofText s
      · exact .inl ⟨_, .notUtf8 (not_exists.1 h)⟩

theorem json?_eq_ok_iff : file.json? = .ok held ↔ file.Holds held := by
  constructor
  · intro h
    obtain ⟨f, hf⟩ | ⟨held', hheld⟩ := refused_or_holds file
    · cases hf.json?_eq.symm.trans h
    · cases hheld.json?_eq.symm.trans h
      exact hheld
  · exact Holds.json?_eq

theorem json?_eq_error_iff : file.json? = .error f ↔ file.IsRefused f := by
  constructor
  · intro h
    obtain ⟨f', hf⟩ | ⟨held, hheld⟩ := refused_or_holds file
    · cases hf.json?_eq.symm.trans h
      exact hf
    · cases hheld.json?_eq.symm.trans h
  · exact IsRefused.json?_eq

end File

end Mycelium
