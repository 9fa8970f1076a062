import Mathlib.Data.Char
import Mathlib.Data.List.Lex
import Mycelium.Proofs.Templates

/-!
# Keys of rules

Whether two rules are the same is asked in two ways: entry by entry, where rules are looked for in
a list, and by a key, where rules stand in a table.  `agrees_with_key` says that both ways agree.

The key holds the entries of the template sorted by name.  Names do not repeat, so the order is
strict (`pairwise_sorted`), and of all orders in which the same entries may stand there is only
one that is sorted (`sorted_eq_iff`).  A template that is made of a list has the last value that
the list gives to a name, wherever it stands there (`get?_ofList`).
-/

namespace Mycelium

namespace Entries

variable {β : Type} {a b : Entries β}

/-- Entries of which no name repeats are in some order the same exactly when every name has the
same value. -/
theorem perm_iff (ha : a.names.Nodup) (hb : b.names.Nodup) :
    a.Perm b ↔ ∀ name, a.get? name = b.get? name := by
  constructor
  · intro h name
    ext v
    rw [get?_eq_some_iff ha, get?_eq_some_iff hb, h.mem_iff]
  · intro h
    refine (List.perm_ext_iff_of_nodup (nodup_of_nodup_names ha) (nodup_of_nodup_names hb)).2 ?_
    intro e
    rw [← get?_eq_some_iff ha, ← get?_eq_some_iff hb, h e.1]

end Entries

namespace Template

variable {s t : Template}

/-! ## Sorted entries -/

theorem textLe_iff {a b : Text} : textLe a b = true ↔ a ≤ b := by
  simp [textLe]

theorem sorted_perm (t : Template) : t.sorted.Perm t.entries := List.mergeSort_perm _ _

/-- The sorted entries ascend by name. -/
theorem pairwise_sorted (t : Template) : t.sorted.Pairwise fun d e => d.1 < e.1 := by
  have hle : t.sorted.Pairwise fun d e => textLe d.1 e.1 = true := by
    refine List.pairwise_mergeSort ?_ ?_ t.entries
    · intro a b c hab hbc
      exact textLe_iff.2 (le_trans (textLe_iff.1 hab) (textLe_iff.1 hbc))
    · intro a b
      rw [Bool.or_eq_true, textLe_iff, textLe_iff]
      exact le_total a.1 b.1
  have hne : t.sorted.Pairwise fun d e => d.1 ≠ e.1 := by
    rw [← List.pairwise_map]
    exact (t.sorted_perm.map _).nodup_iff.2 t.nodup
  exact (hle.and hne).imp fun h => lt_of_le_of_ne (textLe_iff.1 h.1) h.2

/-- The same entries, whatever their order, are sorted in only one way. -/
theorem sorted_eq_iff : s.sorted = t.sorted ↔ s.entries.Perm t.entries := by
  constructor
  · intro h
    exact s.sorted_perm.symm.trans (h ▸ t.sorted_perm)
  · intro h
    refine List.Perm.eq_of_pairwise ?_ s.pairwise_sorted t.pairwise_sorted
      (s.sorted_perm.trans (h.trans t.sorted_perm.symm))
    intro d e _ _ hde hed
    exact absurd hed (lt_asymm hde)

/-! ## Templates that are made of a list -/

theorem entries_foldl_put (t : Template) (es : Entries Text) :
    (es.foldl (fun t e => t.put e.1 e.2) t).entries = t.entries.putAll es := by
  induction es generalizing t with
  | nil => rfl
  | cons e es ih => exact ih (t.put e.1 e.2)

/-- The last value of a name counts. -/
theorem get?_ofList (es : Entries Text) (name : Text) :
    (ofList es).entries.get? name = Entries.get? es.reverse name := by
  rw [ofList, entries_foldl_put, Entries.get?_putAll]
  exact Option.or_none

example : (ofList [(['b'], ['1']), (['a'], ['2']), (['b'], ['3'])]).sorted =
    [(['a'], ['2']), (['b'], ['3'])] := by cbv

theorem perm_ofList_iff {es fs : Entries Text} : (ofList es).entries.Perm (ofList fs).entries ↔
    ∀ name, Entries.get? es.reverse name = Entries.get? fs.reverse name := by
  rw [Entries.perm_iff (ofList es).nodup (ofList fs).nodup]
  simp only [get?_ofList]

end Template

namespace Rule

variable {r s : Rule}

/-- Same rules have the same key, and no other rules have it. -/
theorem same_iff_key_eq : (r == s) = true ↔ r.key = s.key := by
  rw [same_iff, key, key, Prod.mk.injEq, Prod.mk.injEq, Prod.mk.injEq, Template.sorted_eq_iff]

theorem equivalence_same : Equivalence fun r s : Rule => (r == s) = true :=
  ⟨same_refl, same_symm, same_trans⟩

/-- The rule with the default values of a list, of which the last one of a name counts. -/
def withDefaults (r : Rule) (es : Entries Text) : Rule := { r with template := .ofList es }

theorem same_withDefaults_iff {es fs : Entries Text} :
    (r.withDefaults es == s.withDefaults fs) = true ↔
      r.trigger = s.trigger ∧ r.response = s.response ∧ r.condition = s.condition ∧
        ∀ name, Entries.get? es.reverse name = Entries.get? fs.reverse name := by
  rw [same_iff]
  simp only [withDefaults, Template.perm_ofList_iff]

/-- Two rules are the same exactly when they have the same texts and the same sorted entries.  So
being the same is an equivalence, and whatever is computed from the key is the same for rules
that are.  Of two templates that are made of lists it only counts which value each name is given
last: neither the order of the names nor a value that is overwritten, but every entry that stays. -/
theorem agrees_with_key :
    (∀ r s : Rule, (r == s) = true ↔ r.trigger = s.trigger ∧ r.response = s.response ∧
      r.condition = s.condition ∧ r.template.sorted = s.template.sorted) ∧
    (Equivalence fun r s : Rule => (r == s) = true) ∧
    (∀ (hash : Text × Text × Option Text × Entries Text → UInt64) (r s : Rule),
      (r == s) = true → hash r.key = hash s.key) ∧
    ∀ (r s : Rule) (es fs : Entries Text), (r.withDefaults es == s.withDefaults fs) = true ↔
      r.trigger = s.trigger ∧ r.response = s.response ∧ r.condition = s.condition ∧
        ∀ name, Entries.get? es.reverse name = Entries.get? fs.reverse name := by
  refine ⟨?_, equivalence_same, ?_, ?_⟩
  · intro r s
    rw [same_iff, Template.sorted_eq_iff]
  · intro hash r s h
    rw [same_iff_key_eq.1 h]
  · intro r s es fs
    exact same_withDefaults_iff

end Rule

end Mycelium
