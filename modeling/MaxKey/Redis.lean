import Mathlib.Data.List.Basic
import Mathlib.Data.Int.Notation
import Mathlib.Data.Nat.Notation
import Mathlib.Logic.Function.Basic
import Mathlib.Logic.Function.Iterate

namespace Redis
open Function (update)

/-- What a key holds. -/
inductive Value
  | text (value : String)
  | list (values : List String)
  deriving DecidableEq

/-- The keys of a server. A command that meets a value of the other kind answers with an error,
which is a `none` here. -/
abbrev Database := String → Option Value

namespace Database

def get (db : Database) (key : String) : Option (Option String) :=
  match db key with
  | none => some none
  | some (.text value) => some (some value)
  | some (.list _) => none

def set (db : Database) (key value : String) : Database := update db key (some (.text value))

def del (db : Database) (key : String) : Database := update db key none

def rpush (db : Database) (key value : String) : Option Database :=
  match db key with
  | none => some (update db key (some (.list [value])))
  | some (.list values) => some (update db key (some (.list (values ++ [value]))))
  | some (.text _) => none

/-- Takes the first occurrences out; a list without elements goes. -/
def lrem (db : Database) (key : String) (count : ℕ) (value : String) : Option Database :=
  match db key with
  | none => some db
  | some (.list values) =>
    let rest := (fun values => values.erase value)^[count] values
    some (update db key (if rest = [] then none else some (.list rest)))
  | some (.text _) => none

/-- The whole list. -/
def lrange (db : Database) (key : String) : Option (List String) :=
  match db key with
  | none => some []
  | some (.list values) => some values
  | some (.text _) => none

/-- A time to live that is not positive ends the key at once; others do not run out here. -/
def expire (db : Database) (key : String) (seconds : ℤ) : Database :=
  if seconds ≤ 0 then db.del key else db

variable {db db' : Database} {key key' value : String} {values : List String}

@[simp] theorem set_self : db.set key value key = some (.text value) := Function.update_self _ _ _

theorem set_of_ne (h : key' ≠ key) : db.set key value key' = db key' := Function.update_of_ne h _ _

@[simp] theorem del_self : db.del key key = none := Function.update_self _ _ _

theorem del_of_ne (h : key' ≠ key) : db.del key key' = db key' := Function.update_of_ne h _ _

theorem del_of_none (h : db key = none) : db.del key = db := Function.update_eq_self_iff.mpr h.symm

@[simp] theorem expire_of_pos {seconds : ℤ} (h : 0 < seconds) : db.expire key seconds = db :=
  if_neg (Int.not_le.mpr h)

theorem get_of_none (h : db key = none) : db.get key = some none := by simp only [get, h]

theorem get_of_text (h : db key = some (.text value)) : db.get key = some (some value) := by
  simp only [get, h]

theorem lrange_of_none (h : db key = none) : db.lrange key = some [] := by simp only [lrange, h]

theorem lrange_of_list (h : db key = some (.list values)) : db.lrange key = some values := by
  simp only [lrange, h]

/-- What a push leaves: the other keys, and under the key a list that ends with the value. -/
theorem rpush_eq_some (h : db.rpush key value = some db') :
    (∃ values, db' key = some (.list (values ++ [value])) ∧
      (db key = none ∧ values = [] ∨ db key = some (.list values))) ∧
    ∀ key', key' ≠ key → db' key' = db key' := by
  unfold rpush at h
  split at h
  · rename_i hnone
    rw [← Option.some.inj h]
    refine ⟨⟨[], Function.update_self _ _ _, .inl ⟨hnone, rfl⟩⟩, fun key' hne => ?_⟩
    exact Function.update_of_ne hne _ _
  · rename_i values hlist
    rw [← Option.some.inj h]
    refine ⟨⟨values, Function.update_self _ _ _, .inr hlist⟩, fun key' hne => ?_⟩
    exact Function.update_of_ne hne _ _
  · cases h

end Database

end Redis
