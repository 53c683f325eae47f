import GatewayPolicy.Ordered.Entries
/-!
# Fragments

A fragment is one element of a policy document: a tag, attributes in the order of
their names, a text if it has one, and children.
-/

namespace GatewayPolicy

/-- Attribute values in the order of the attribute names. -/
structure Attributes where
  entries : Entries String
  sorted : entries.Sorted
  deriving DecidableEq, Repr

namespace Attributes

def empty : Attributes := ⟨[], .nil⟩

/-- Writes an attribute; an earlier value of the same name is lost. -/
def set (a : Attributes) (name value : String) : Attributes :=
  ⟨a.entries.put name value, Entries.sorted_put a.sorted⟩

def get? (a : Attributes) (name : String) : Option String := a.entries.get? name

def isEmpty (a : Attributes) : Bool := a.entries.isEmpty

@[simp] theorem get?_empty (name : String) : empty.get? name = none := rfl

@[simp] theorem get?_set (a : Attributes) (k v j : String) :
    (a.set k v).get? j = if k = j then some v else a.get? j := Entries.get?_put ..

end Attributes

/-- One element of a policy document. -/
structure Fragment where
  tag : String
  attributes : Attributes
  text : Option String
  children : List Fragment
  deriving Repr

namespace Fragment

mutual

/-- Whether two elements are the same. -/
def sameFragment : (a b : Fragment) → Decidable (a = b)
  | ⟨s, as, x, cs⟩, ⟨t, bs, y, ds⟩ =>
    have := sameFragments cs ds
    decidable_of_iff (s = t ∧ as = bs ∧ x = y ∧ cs = ds) (by simp)

/-- Whether two lists hold the same elements. -/
def sameFragments : (as bs : List Fragment) → Decidable (as = bs)
  | [], [] => isTrue rfl
  | [], _ :: _ => isFalse (by simp)
  | _ :: _, [] => isFalse (by simp)
  | a :: as, b :: bs =>
    have := sameFragment a b
    have := sameFragments as bs
    decidable_of_iff (a = b ∧ as = bs) (by simp)

end

instance : DecidableEq Fragment := sameFragment

def empty (tag : String) : Fragment := ⟨tag, .empty, none, []⟩

def withAttribute (f : Fragment) (name value : String) : Fragment :=
  { f with attributes := f.attributes.set name value }

/-- Writes an attribute if there is a value for it. -/
def withAttribute? (f : Fragment) (name : String) (value : Option String) : Fragment :=
  match value with
  | some v => f.withAttribute name v
  | none => f

def withText (f : Fragment) (text : String) : Fragment := { f with text := some text }

/-- Adds children after those there are. -/
def withChildren (f : Fragment) (cs : List Fragment) : Fragment := { f with children := f.children ++ cs }

def withChild (f c : Fragment) : Fragment := f.withChildren [c]

def attribute? (f : Fragment) (name : String) : Option String := f.attributes.get? name

section
variable (f : Fragment) (name value : String) (v : Option String) (cs : List Fragment)

@[simp] theorem withAttribute_tag : (f.withAttribute name value).tag = f.tag := rfl
@[simp] theorem withAttribute_children : (f.withAttribute name value).children = f.children := rfl

@[simp] theorem withAttribute?_tag : (f.withAttribute? name v).tag = f.tag := by cases v <;> rfl
@[simp] theorem withAttribute?_children : (f.withAttribute? name v).children = f.children := by cases v <;> rfl

@[simp] theorem withText_tag : (f.withText value).tag = f.tag := rfl
@[simp] theorem withText_children : (f.withText value).children = f.children := rfl

@[simp] theorem withChildren_tag : (f.withChildren cs).tag = f.tag := rfl
@[simp] theorem withChildren_children : (f.withChildren cs).children = f.children ++ cs := rfl

@[simp] theorem withAttribute_attribute? (j : String) :
    (f.withAttribute name value).attribute? j = if name = j then some value else f.attribute? j :=
  Attributes.get?_set ..

@[simp] theorem withChildren_attribute? (j : String) : (f.withChildren cs).attribute? j = f.attribute? j := rfl

@[simp] theorem empty_tag (tag : String) : (empty tag).tag = tag := rfl
@[simp] theorem empty_children (tag : String) : (empty tag).children = [] := rfl

end

mutual

/-- The number of elements of a tree. -/
def size : Fragment → Nat
  | ⟨_, _, _, cs⟩ => 1 + sizeAll cs

/-- The number of elements of some trees. -/
def sizeAll : List Fragment → Nat
  | [] => 0
  | f :: fs => f.size + sizeAll fs

end

end Fragment

end GatewayPolicy
