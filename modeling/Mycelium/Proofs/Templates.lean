import Mathlib.Data.List.Forall2
import Mathlib.Data.List.Nodup
import Mathlib.Data.List.Perm.Subperm
import Mycelium.Rule.System

/-!
# Templates and rules that are the same

Two templates are the same when their entries are, up to order
(`Template.same_iff`).  So two rules that are the same hold the same texts, and
two systems are the same rule by rule (`RuleSystem.same_iff`).
-/

namespace Mycelium

namespace Entries

variable {β : Type} {es : Entries β} {name : Text} {v : β}

/-- A new name comes last. -/
theorem put_of_not_mem (h : name ∉ es.names) : es.put name v = es ++ [(name, v)] := by
  induction es with
  | nil => rfl
  | cons e rest ih =>
      simp only [names_cons, List.mem_cons, not_or] at h
      rw [put, if_neg (Ne.symm h.1), ih h.2]
      rfl

theorem mem_of_mem_put {e : Text × β} (h : e ∈ es.put name v) : e = (name, v) ∨ e ∈ es := by
  induction es with
  | nil => exact .inl (by simpa [put] using h)
  | cons d rest ih =>
      rw [put] at h
      split at h
      · next hk =>
          rcases List.mem_cons.1 h with rfl | h
          · exact .inl (by rw [hk])
          · exact .inr (List.mem_cons_of_mem d h)
      · rcases List.mem_cons.1 h with rfl | h
        · exact .inr List.mem_cons_self
        · exact (ih h).imp_right (List.mem_cons_of_mem d)

/-- Where names do not repeat, a look-up finds the entries. -/
theorem get?_eq_some_iff (h : es.names.Nodup) : es.get? name = some v ↔ (name, v) ∈ es := by
  induction es with
  | nil => simp
  | cons e rest ih =>
      obtain ⟨k, w⟩ := e
      simp only [names_cons, List.nodup_cons] at h
      by_cases hk : k = name
      · subst hk
        have hrest : (k, v) ∉ rest := fun hm => h.1 (List.mem_map_of_mem hm)
        simp [get?, hrest, eq_comm]
      · simp [get?, hk, Ne.symm hk, ih h.2]

theorem nodup_of_nodup_names (h : es.names.Nodup) : es.Nodup := List.Nodup.of_map _ h

/-- Entries of which no name repeats are the same exactly when they are in some
order. -/
theorem same_iff_perm [DecidableEq β] {a b : Entries β} (ha : a.names.Nodup)
    (hb : b.names.Nodup) : a.same b = true ↔ a.Perm b := by
  simp only [same, Bool.and_eq_true, beq_iff_eq, List.all_eq_true]
  constructor
  · rintro ⟨hlen, hsub⟩
    have hsub : a ⊆ b := fun e he => (get?_eq_some_iff hb).1 (hsub e he)
    exact ((nodup_of_nodup_names ha).subperm hsub).perm_of_length_le (Nat.le_of_eq hlen.symm)
  · intro h
    exact ⟨h.length_eq, fun e he => (get?_eq_some_iff hb).2 (h.subset he)⟩

end Entries

namespace Template

/-- Two templates are the same when they have the same entries in some order. -/
theorem same_iff {s t : Template} : s.same t = true ↔ s.entries.Perm t.entries :=
  Entries.same_iff_perm s.nodup t.nodup

theorem eq_of_entries_eq {s t : Template} (h : s.entries = t.entries) : s = t := by
  cases s
  cases t
  cases h
  rfl

/-- Entries whose names are new and do not repeat are put in at the end. -/
theorem foldl_put_entries (t : Template) (es : Entries Text)
    (h : (t.entries ++ es).names.Nodup) :
    (es.foldl (fun t e => t.put e.1 e.2) t).entries = t.entries ++ es := by
  induction es generalizing t with
  | nil => simp
  | cons e rest ih =>
      have hnew : e.1 ∉ t.entries.names := by
        intro hm
        simp only [Entries.names, List.map_append, List.map_cons, List.nodup_append] at h
        exact h.2.2 e.1 hm e.1 List.mem_cons_self rfl
      have hput : (t.put e.1 e.2).entries = t.entries ++ [e] := Entries.put_of_not_mem hnew
      rw [List.foldl_cons, ih _ (by rw [hput]; simpa using h), hput]
      simp

/-- A template is the one that its entries make. -/
theorem ofList_entries (t : Template) : ofList t.entries = t :=
  eq_of_entries_eq (foldl_put_entries empty t.entries t.nodup)

end Template

namespace Rule

variable {r s t : Rule}

theorem same_iff : (r == s) = true ↔ r.trigger = s.trigger ∧ r.response = s.response ∧
    r.condition = s.condition ∧ r.template.entries.Perm s.template.entries := by
  show r.same s = true ↔ _
  simp [same, Template.same_iff, and_assoc]

theorem same_refl (r : Rule) : (r == r) = true :=
  same_iff.2 ⟨rfl, rfl, rfl, List.Perm.refl _⟩

theorem same_symm (h : (r == s) = true) : (s == r) = true := by
  obtain ⟨htrigger, hresponse, hcondition, htemplate⟩ := same_iff.1 h
  exact same_iff.2 ⟨htrigger.symm, hresponse.symm, hcondition.symm, htemplate.symm⟩

theorem same_trans (h : (r == s) = true) (h' : (s == t) = true) : (r == t) = true := by
  obtain ⟨htrigger, hresponse, hcondition, htemplate⟩ := same_iff.1 h
  obtain ⟨htrigger', hresponse', hcondition', htemplate'⟩ := same_iff.1 h'
  exact same_iff.2 ⟨htrigger.trans htrigger', hresponse.trans hresponse',
    hcondition.trans hcondition', htemplate.trans htemplate'⟩

instance : EquivBEq Rule where
  symm := same_symm
  trans := same_trans
  rfl := same_refl _

end Rule

namespace RuleSystem

variable {a b : RuleSystem}

theorem beq_rules_iff {xs ys : List Rule} :
    (xs == ys) = true ↔ List.Forall₂ (fun r s => (r == s) = true) xs ys := by
  induction xs generalizing ys with
  | nil => cases ys <;> simp
  | cons x xs ih =>
      cases ys with
      | nil => simp
      | cons y ys => simp [← ih]

/-- Two systems are the same when they are rule by rule. -/
theorem same_iff : (a == b) = true ↔ List.Forall₂ (fun r s => (r == s) = true) a.rules b.rules :=
  beq_rules_iff

theorem same_refl (a : RuleSystem) : (a == a) = true :=
  same_iff.2 (List.forall₂_same.2 fun r _ => Rule.same_refl r)

end RuleSystem

end Mycelium
