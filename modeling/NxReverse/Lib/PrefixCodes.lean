import Mathlib.Data.List.Basic

/-! Codes whose words can be read off the front of any text. What is written in such a code can be read in one way, also
in front of something else as long as that does not continue it. -/
namespace NxReverse

/-- A word for every symbol, and a reader that takes one word off a text. -/
structure PrefixCode (α β : Type) where
  write : α → List β
  read : List β → Option (α × List β)
  nonempty : ∀ symbol, write symbol ≠ []
  read_write : ∀ symbol rest, read (write symbol ++ rest) = some (symbol,rest)

namespace PrefixCode

variable {α β : Type} (code : PrefixCode α β)

def writeAll (text : List α) : List β := text.flatMap code.write

@[simp] theorem writeAll_nil : code.writeAll [] = [] := rfl

@[simp] theorem writeAll_cons (symbol : α) (text : List α) :
    code.writeAll (symbol :: text) = code.write symbol ++ code.writeAll text := List.flatMap_cons

@[simp] theorem writeAll_append (text other : List α) :
    code.writeAll (text ++ other) = code.writeAll text ++ code.writeAll other := List.flatMap_append

def Ends (rest : List β) : Prop := ∀ symbol more, rest ≠ code.write symbol ++ more

theorem ends_nil : code.Ends [] := fun symbol _ same =>
  code.nonempty symbol (List.append_eq_nil_iff.mp same.symm).1

theorem write_append_inj {symbol other : α} {rest tail : List β}
    (same : code.write symbol ++ rest = code.write other ++ tail) : symbol = other ∧ rest = tail := by
  have read := congrArg code.read same
  rw [code.read_write,code.read_write,Option.some_inj] at read
  exact Prod.mk.inj read

theorem writeAll_append_inj {text other : List α} {rest tail : List β} (ends : code.Ends rest) (endsToo : code.Ends tail)
    (same : code.writeAll text ++ rest = code.writeAll other ++ tail) : text = other ∧ rest = tail := by
  induction text generalizing other with
  | nil =>
    cases other with
    | nil => exact ⟨rfl,same⟩
    | cons symbol other =>
      rw [writeAll_cons,List.append_assoc] at same
      exact absurd same (ends symbol _)
  | cons symbol text ih =>
    cases other with
    | nil =>
      rw [writeAll_cons,List.append_assoc] at same
      exact absurd same.symm (endsToo symbol _)
    | cons first other =>
      rw [writeAll_cons,writeAll_cons,List.append_assoc,List.append_assoc] at same
      obtain ⟨rfl,later⟩ := code.write_append_inj same
      obtain ⟨rfl,behind⟩ := ih later
      exact ⟨rfl,behind⟩

theorem writeAll_inj {text other : List α} : code.writeAll text = code.writeAll other ↔ text = other := by
  constructor
  · intro same
    have ended : code.writeAll text ++ [] = code.writeAll other ++ [] := by rw [same]
    exact (code.writeAll_append_inj code.ends_nil code.ends_nil ended).1
  · exact congrArg code.writeAll

end PrefixCode

end NxReverse
