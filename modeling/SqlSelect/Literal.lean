import SqlSelect.Number.Binary
import SqlSelect.Time

/-!
# Literals

The values that can stand in a statement, and their text.

* Text is written as it is given, neither quoted nor escaped: whoever passes it has formed it.
* `==` compares what literals mean: numbers as numbers and date-times as instants, each only with
  its own kind.
* `ToLiteral α` says how a value of type `α` is written into a statement. Numbers keep their value,
  an absent value is `NULL`, and a present one is written as itself.
-/

namespace SqlSelect

inductive Literal where
  | null
  | bool (b : Bool)
  | signed (n : Int64)
  | unsigned (n : UInt64)
  | double (x : Binary64)
  | string (s : String)
  | dateTime (t : DateTime)
  deriving Repr

namespace Literal

def text : Literal → String
  | null => "NULL"
  | bool b => if b then "TRUE" else "FALSE"
  | signed n => Numeral.signed n.toInt
  | unsigned n => String.ofList (Numeral.digits n.toNat)
  | double x => x.text
  | string s => s
  | dateTime t => t.text

def sameMeaning : Literal → Literal → Bool
  | null, null => true
  | bool b, bool c => b == c
  | signed m, signed n => m == n
  | unsigned m, unsigned n => m == n
  | double x, double y => x.numEq y
  | string s, string t => s == t
  | dateTime s, dateTime t => s.instant == t.instant
  | _, _ => false

instance : BEq Literal := ⟨sameMeaning⟩

theorem beq_def (a b : Literal) : (a == b) = a.sameMeaning b := rfl

end Literal

/-! ## Values as literals -/

class ToLiteral (α : Type) where
  toLiteral : α → Literal

export ToLiteral (toLiteral)

instance : ToLiteral Literal := ⟨id⟩
instance : ToLiteral Unit := ⟨fun _ => .null⟩
instance : ToLiteral Bool := ⟨.bool⟩
instance : ToLiteral Int8 := ⟨fun n => .signed n.toInt64⟩
instance : ToLiteral Int16 := ⟨fun n => .signed n.toInt64⟩
instance : ToLiteral Int32 := ⟨fun n => .signed n.toInt64⟩
instance : ToLiteral Int64 := ⟨.signed⟩
instance : ToLiteral UInt8 := ⟨fun n => .unsigned n.toUInt64⟩
instance : ToLiteral UInt16 := ⟨fun n => .unsigned n.toUInt64⟩
instance : ToLiteral UInt32 := ⟨fun n => .unsigned n.toUInt64⟩
instance : ToLiteral UInt64 := ⟨.unsigned⟩
instance : ToLiteral Binary32 := ⟨fun x => .double x.widen⟩
instance : ToLiteral Binary64 := ⟨.double⟩
instance : ToLiteral Float32 := ⟨fun x => .double (Binary32.mk x.toBits).widen⟩
instance : ToLiteral Float := ⟨fun x => .double ⟨x.toBits⟩⟩
instance : ToLiteral String := ⟨.string⟩
instance : ToLiteral DateTime := ⟨.dateTime⟩

instance {α : Type} [ToLiteral α] : ToLiteral (Option α) where
  toLiteral
    | some value => toLiteral value
    | none => .null

theorem toLiteral_some {α : Type} [ToLiteral α] (value : α) :
    toLiteral (some value) = toLiteral value := rfl

theorem toLiteral_none {α : Type} [ToLiteral α] : toLiteral (none : Option α) = .null := rfl

end SqlSelect
