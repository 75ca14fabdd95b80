import ScriptProxy.ClassFile.Constant

/-!
# Annotations and the values of their elements

An annotation names its type and gives values to some elements. All of it refers to the constant
pool by index; nothing is looked up here. Equality of values is decidable.
-/

namespace ScriptProxy.ClassFile

/-- The value of an annotation element. -/
inductive ElementValue where
  /-- A constant. The tag tells its type, one of `ElementValue.constantTags` in a file. -/
  | const (tag : UInt8) (index : UInt16)
  | enumConstant (type name : UInt16)
  | classLiteral (descriptor : UInt16)
  /-- An annotation as a value. -/
  | nested (type : UInt16) (elements : List (UInt16 × ElementValue))
  | array (values : List ElementValue)
  deriving Inhabited

namespace ElementValue

/-- The tags of constants: `B C D F I J S Z s`. -/
def constantTags : List UInt8 := [0x42, 0x43, 0x44, 0x46, 0x49, 0x4A, 0x53, 0x5A, 0x73]

def stringTag : UInt8 := 0x73

/-- The tags of the constants that an integer represents: `B C I S Z`. -/
def integerTags : List UInt8 := [0x42, 0x43, 0x49, 0x53, 0x5A]

/-! ### Equality -/

mutual

def same : ElementValue → ElementValue → Bool
  | const t i, const u j => t == u && i == j
  | enumConstant t i, enumConstant u j => t == u && i == j
  | classLiteral i, classLiteral j => i == j
  | nested t es, nested u fs => t == u && sameElements es fs
  | array vs, array ws => sameValues vs ws
  | _, _ => false

def sameElements : List (UInt16 × ElementValue) → List (UInt16 × ElementValue) → Bool
  | [], [] => true
  | (n, v) :: es, (m, w) :: fs => n == m && same v w && sameElements es fs
  | _, _ => false

def sameValues : List ElementValue → List ElementValue → Bool
  | [], [] => true
  | v :: vs, w :: ws => same v w && sameValues vs ws
  | _, _ => false

end

mutual

theorem same_iff : ∀ v w : ElementValue, same v w ↔ v = w
  | const t i, w => by cases w <;> simp [same]
  | enumConstant t i, w => by cases w <;> simp [same]
  | classLiteral i, w => by cases w <;> simp [same]
  | nested t es, w => by cases w <;> simp [same, sameElements_iff es]
  | array vs, w => by cases w <;> simp [same, sameValues_iff vs]

theorem sameElements_iff :
    ∀ es fs : List (UInt16 × ElementValue), sameElements es fs ↔ es = fs
  | [], fs => by cases fs <;> simp [sameElements]
  | (n, v) :: es, fs => by
    cases fs <;> simp [sameElements, same_iff v, sameElements_iff es, Prod.ext_iff]

theorem sameValues_iff : ∀ vs ws : List ElementValue, sameValues vs ws ↔ vs = ws
  | [], ws => by cases ws <;> simp [sameValues]
  | v :: vs, ws => by cases ws <;> simp [sameValues, same_iff v, sameValues_iff vs]

end

instance : DecidableEq ElementValue := fun v w => decidable_of_iff _ (same_iff v w)

/-! ### The text of a value in messages -/

/-- How messages show a kind with named fields. -/
def fields (kind : String) (args : List (String × String)) : String :=
  kind ++ " \x7b " ++ ", ".intercalate (args.map fun (n, v) => n ++ ": " ++ v) ++ " \x7d"

mutual

def describe : ElementValue → String
  | const tag index => fields "Const" [("tag", toString tag.toNat), ("index", toString index.toNat)]
  | enumConstant type name =>
    fields "Enum"
      [("type_name_index", toString type.toNat), ("const_name_index", toString name.toNat)]
  | classLiteral i => Constant.applied "Class" [toString i.toNat]
  | nested type elements =>
    Constant.applied "Annotation" [fields "Annotation" [("type_index", toString type.toNat),
      ("elements", "[" ++ ", ".intercalate (describeElements elements []) ++ "]")]]
  | array values =>
    Constant.applied "Array" ["[" ++ ", ".intercalate (describeValues values []) ++ "]"]

/-- The texts of elements after the texts `before`, which are given last to first. -/
def describeElements : List (UInt16 × ElementValue) → List String → List String
  | [], before => before.reverse
  | (n, v) :: rest, before =>
    describeElements rest (Constant.applied "" [toString n.toNat, describe v] :: before)

/-- The texts of values after the texts `before`, which are given last to first. -/
def describeValues : List ElementValue → List String → List String
  | [], before => before.reverse
  | v :: rest, before => describeValues rest (describe v :: before)

end

end ElementValue

/-- An annotation: the index of its type and its elements, each with the index of its name. -/
structure Annotation where
  type : UInt16
  elements : List (UInt16 × ElementValue)
  deriving DecidableEq, Inhabited

end ScriptProxy.ClassFile
