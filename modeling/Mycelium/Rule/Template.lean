import Mycelium.Entries

/-!
# Templates

A template gives default values to the names a response may mention.  A name
appears once, and two templates are the same when they give the same values to
the same names, whatever the order.  `Template.sorted` lists the entries by name,
so that templates that are the same have the same list.
-/

namespace Mycelium

/-- Default values under names that are all different. -/
structure Template where
  /-- The entries, in the order in which the names first appeared. -/
  entries : Entries Text
  /-- No name appears twice. -/
  nodup : entries.names.Nodup

namespace Template

/-- The template without entries. -/
def empty : Template := ⟨[], by simp⟩

instance : Inhabited Template := ⟨empty⟩

/-- The template with a value put under a name. -/
def put (t : Template) (name value : Text) : Template :=
  ⟨t.entries.put name value, Entries.nodup_put t.nodup name value⟩

/-- The template with the entries of a list put in, in order. -/
def ofList (es : Entries Text) : Template := es.foldl (fun t e => t.put e.1 e.2) empty

/-- Whether two templates give the same values to the same names. -/
def same (s t : Template) : Bool := s.entries.same t.entries

/-- Whether a text comes before another one, or is it, in the order of the code
points. -/
def textLe (a b : Text) : Bool := !decide (b < a)

/-- The entries of a template, sorted by name. -/
def sorted (t : Template) : Entries Text := t.entries.mergeSort fun a b => textLe a.1 b.1

end Template

end Mycelium
