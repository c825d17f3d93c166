import Mathlib.Data.Prod.Lex
import Mathlib.Data.String.Basic
import Mathlib.Algebra.Order.Ring.Rat
import Mathlib.Tactic.Common

/-! Values of a dynamically typed language, their equality, and what a round trip
through JSON text leaves of them. Numbers of all types are equal by value; text
has no tuples and only texts as keys. The entries of a dictionary stand in some
order, on which nothing here depends. -/

namespace WebSupervisor.Library.Json

/-- A floating-point number. A finite one comes with its text. A NaN equals itself
only as the same object, and the decoder has one such object. -/
inductive Floating where
  | finite (value : Rat) (printed : String)
  | infinite (negative : Bool)
  | nan (decoded : Bool)
  deriving DecidableEq

/-- A key of a dictionary. Texts and the types below are what JSON has a text for. -/
inductive Key where
  | null
  | bool (value : Bool)
  | int (value : Int)
  | float (value : Floating)
  | text (value : String)
  | other (kind : String)
  deriving DecidableEq

mutual

/-- An object of another type can be in a value, and cannot be encoded. -/
inductive Value where
  | null
  | bool (value : Bool)
  | int (value : Int)
  | float (value : Floating)
  | text (value : String)
  | list (items : Values)
  | tuple (items : Values)
  | dict (entries : Entries)
  | other (kind : String)

inductive Values where
  | nil
  | cons (first : Value) (rest : Values)

inductive Entries where
  | nil
  | cons (key : Key) (value : Value) (rest : Entries)

end

deriving instance DecidableEq for Value, Values, Entries

section Equality

/-- Numbers of all types that are equal have one normal form. -/
def Floating.normal : Floating → Floating
  | .finite value _ => .finite value ""
  | value => value

def Key.normal : Key → Key
  | .bool value => .float (.finite (if value then 1 else 0) "")
  | .int value => .float (.finite value "")
  | .float value => .float value.normal
  | key => key

/-- The place of a key in normal form among others. -/
def Key.rank : Key → Nat ×ₗ Rat ×ₗ String
  | .null => toLex (0, toLex (0, ""))
  | .bool value => toLex (1, toLex (if value then 1 else 0, ""))
  | .int value => toLex (1, toLex (value, ""))
  | .float (.finite value printed) => toLex (1, toLex (value, printed))
  | .float (.infinite negative) => toLex (2, toLex (if negative then 1 else 0, ""))
  | .float (.nan decoded) => toLex (3, toLex (if decoded then 1 else 0, ""))
  | .text value => toLex (4, toLex (0, value))
  | .other kind => toLex (5, toLex (0, kind))

def Entries.keys : Entries → List Key
  | .nil => []
  | .cons key _ rest => key :: rest.keys

/-- Insert an entry before the first one of a higher rank. -/
def Entries.insert (key : Key) (value : Value) : Entries → Entries
  | .nil => .cons key value .nil
  | .cons first found rest =>
    if key.rank ≤ first.rank then .cons key value (.cons first found rest)
    else .cons first found (rest.insert key value)

mutual

/-- Two values are equal when they have the same normal form: numbers by value,
sequences of one type by their items, dictionaries by their entries. -/
def Value.normal : Value → Value
  | .bool value => .float (.finite (if value then 1 else 0) "")
  | .int value => .float (.finite value "")
  | .float value => .float value.normal
  | .list items => .list items.normal
  | .tuple items => .tuple items.normal
  | .dict entries => .dict entries.normal
  | value => value

def Values.normal : Values → Values
  | .nil => .nil
  | .cons first rest => .cons first.normal rest.normal

def Entries.normal : Entries → Entries
  | .nil => .nil
  | .cons key value rest => rest.normal.insert key.normal value.normal

end

example : (Value.dict (.cons (.text "a") (.int 1) (.cons (.text "b") (.bool true) .nil))).normal =
    (Value.dict (.cons (.text "b") (.float (.finite 1 "1.0")) (.cons (.text "a") (.bool true) .nil))).normal := by
  decide +kernel

end Equality

section RoundTrip

/-- The text of a key, if there is one. -/
def Key.text? : Key → Option String
  | .null => some "null"
  | .bool value => some (if value then "true" else "false")
  | .int value => some (toString value)
  | .float (.finite _ printed) => some printed
  | .float (.infinite negative) => some (if negative then "-Infinity" else "Infinity")
  | .float (.nan _) => some "NaN"
  | .text value => some value
  | .other _ => none

/-- Whether two keys can be sorted: both are numbers or both are texts. -/
def Key.sortsWith : Key → Key → Bool
  | .text _, .text _ => true
  | .bool _, second | .int _, second | .float _, second =>
    match second with
    | .bool _ | .int _ | .float _ => true
    | _ => false
  | _, _ => false

mutual

/-- The value that is decoded from the text with sorted keys. There is none where
the encoder raises. -/
def Value.roundTrip : Value → Option Value
  | .float (.nan _) => some (.float (.nan true))
  | .list items => items.roundTrip.map .list
  | .tuple items => items.roundTrip.map .list
  | .dict entries =>
    if entries.keys.Pairwise (fun first second => first.sortsWith second = true) then entries.roundTrip.map .dict
    else none
  | .other _ => none
  | value => some value

def Values.roundTrip : Values → Option Values
  | .nil => some .nil
  | .cons first rest => do
    let first ← first.roundTrip
    let rest ← rest.roundTrip
    some (.cons first rest)

/-- Of two entries with one text the last one is decoded. -/
def Entries.roundTrip : Entries → Option Entries
  | .nil => some .nil
  | .cons key value rest => do
    let text ← key.text?
    let value ← value.roundTrip
    let rest ← rest.roundTrip
    some (if .text text ∈ rest.keys then rest else .cons (.text text) value rest)

end

end RoundTrip

section Plain

mutual

/-- What a decoder can give: no tuples, texts as keys, no other types, and its own NaN. -/
def Value.Plain : Value → Prop
  | .float (.nan decoded) => decoded = true
  | .list items => items.Plain
  | .dict entries => entries.Plain
  | .tuple _ | .other _ => False
  | _ => True

def Values.Plain : Values → Prop
  | .nil => True
  | .cons first rest => first.Plain ∧ rest.Plain

def Entries.Plain : Entries → Prop
  | .nil => True
  | .cons key value rest => (∃ text, key = .text text) ∧ key ∉ rest.keys ∧ value.Plain ∧ rest.Plain

end

mutual

theorem Value.roundTrip_plain {value decoded : Value} (done : value.roundTrip = some decoded) : decoded.Plain := by
  cases value with
  | null | bool | int | text =>
    cases done
    trivial
  | float value =>
    cases value <;> cases done <;> trivial
  | list items | tuple items =>
    obtain ⟨kept, made, rfl⟩ := Option.map_eq_some_iff.mp done
    exact Values.roundTrip_plain made
  | dict entries =>
    unfold Value.roundTrip at done
    split at done
    next =>
      obtain ⟨kept, made, rfl⟩ := Option.map_eq_some_iff.mp done
      exact Entries.roundTrip_plain made
    next => cases done
  | other => cases done

theorem Values.roundTrip_plain {items decoded : Values} (done : items.roundTrip = some decoded) : decoded.Plain := by
  cases items with
  | nil =>
    cases done
    trivial
  | cons first rest =>
    simp only [Values.roundTrip, Option.bind_eq_bind, Option.bind_eq_some_iff] at done
    obtain ⟨_, one, _, others, same⟩ := done
    cases same
    exact ⟨Value.roundTrip_plain one, Values.roundTrip_plain others⟩

theorem Entries.roundTrip_plain {entries decoded : Entries} (done : entries.roundTrip = some decoded) :
    decoded.Plain := by
  cases entries with
  | nil =>
    cases done
    trivial
  | cons key value rest =>
    simp only [Entries.roundTrip, Option.bind_eq_bind, Option.bind_eq_some_iff] at done
    obtain ⟨text, _, _, one, _, others, same⟩ := done
    have plain := Entries.roundTrip_plain others
    split at same
    next =>
      cases same
      exact plain
    next fresh =>
      cases same
      exact ⟨⟨text, rfl⟩, fresh, Value.roundTrip_plain one, plain⟩

end

theorem Entries.Plain.texts : ∀ {entries : Entries}, entries.Plain → ∀ key ∈ entries.keys, ∃ text, key = .text text
  | .nil, _, _, member => absurd member List.not_mem_nil
  | .cons _ _ _, ⟨text, _, _, plain⟩, key, member => by
    rcases List.mem_cons.mp member with rfl | inside
    · exact text
    · exact plain.texts key inside

/-- The keys of a decoded dictionary can be sorted. -/
theorem Entries.Plain.sortable {entries : Entries} (plain : entries.Plain) :
    entries.keys.Pairwise (fun first second => first.sortsWith second = true) := by
  refine List.pairwise_of_forall_mem_list (fun first one second two => ?_)
  obtain ⟨_, rfl⟩ := plain.texts first one
  obtain ⟨_, rfl⟩ := plain.texts second two
  rfl

mutual

/-- What has been decoded once stays as it is. -/
theorem Value.Plain.roundTrip {value : Value} (plain : value.Plain) : value.roundTrip = some value := by
  cases value with
  | null | bool | int | text => rfl
  | float value =>
    cases value with
    | finite | infinite => rfl
    | nan decoded =>
      cases plain
      rfl
  | list items => rw [Value.roundTrip, Values.Plain.roundTrip plain, Option.map_some]
  | dict entries =>
    have plain : entries.Plain := plain
    rw [Value.roundTrip, if_pos plain.sortable, Entries.Plain.roundTrip plain, Option.map_some]
  | tuple | other => exact plain.elim

theorem Values.Plain.roundTrip {items : Values} (plain : items.Plain) : items.roundTrip = some items := by
  cases items with
  | nil => rfl
  | cons first rest =>
    obtain ⟨one, others⟩ := plain
    simp [Values.roundTrip, Value.Plain.roundTrip one, Values.Plain.roundTrip others]

theorem Entries.Plain.roundTrip {entries : Entries} (plain : entries.Plain) : entries.roundTrip = some entries := by
  cases entries with
  | nil => rfl
  | cons key value rest =>
    obtain ⟨⟨text, rfl⟩, fresh, one, others⟩ := plain
    simp [Entries.roundTrip, Key.text?, Value.Plain.roundTrip one, Entries.Plain.roundTrip others, fresh]

end

theorem Key.normal_text {key : Key} {text : String} : key.normal = .text text ↔ key = .text text := by
  cases key <;> simp [Key.normal]

theorem Entries.mem_keys_insert {key other : Key} {value : Value} : ∀ {entries : Entries},
    other ∈ (entries.insert key value).keys ↔ other = key ∨ other ∈ entries.keys
  | .nil => List.mem_cons
  | .cons first found rest => by
    unfold Entries.insert
    split
    next => exact List.mem_cons
    next =>
      rw [Entries.keys, List.mem_cons, Entries.mem_keys_insert, Entries.keys, List.mem_cons]
      exact or_left_comm

theorem Entries.plain_insert {key : Key} {value : Value} : ∀ {entries : Entries},
    (entries.insert key value).Plain ↔ (Entries.cons key value entries).Plain
  | .nil => Iff.rfl
  | .cons first found rest => by
    unfold Entries.insert
    split
    next => exact Iff.rfl
    next =>
      simp only [Entries.Plain, Entries.plain_insert, Entries.mem_keys_insert, Entries.keys, List.mem_cons, not_or]
      constructor
      · rintro ⟨own, ⟨apart, fresh⟩, one, text, new, two, rest⟩
        exact ⟨text, ⟨Ne.symm apart, new⟩, two, own, fresh, one, rest⟩
      · rintro ⟨text, ⟨apart, new⟩, two, own, fresh, one, rest⟩
        exact ⟨own, ⟨Ne.symm apart, fresh⟩, one, text, new, two, rest⟩

theorem Entries.mem_keys_normal {other : Key} : ∀ {entries : Entries},
    other ∈ entries.normal.keys ↔ ∃ key ∈ entries.keys, key.normal = other
  | .nil => by simp [Entries.normal, Entries.keys]
  | .cons key value rest => by
    rw [Entries.normal, Entries.mem_keys_insert, Entries.mem_keys_normal, Entries.keys]
    simp [eq_comm]

mutual

/-- Whether a value can have been decoded is seen from its normal form. -/
theorem Value.plain_normal {value : Value} : value.normal.Plain ↔ value.Plain := by
  cases value with
  | null | bool | int | text | other | tuple => exact Iff.rfl
  | float value => cases value <;> exact Iff.rfl
  | list items => exact Values.plain_normal
  | dict entries => exact Entries.plain_normal

theorem Values.plain_normal {items : Values} : items.normal.Plain ↔ items.Plain := by
  cases items with
  | nil => exact Iff.rfl
  | cons first rest => exact and_congr Value.plain_normal Values.plain_normal

theorem Entries.plain_normal {entries : Entries} : entries.normal.Plain ↔ entries.Plain := by
  cases entries with
  | nil => exact Iff.rfl
  | cons key value rest =>
    rw [Entries.normal, Entries.plain_insert, Entries.Plain, Entries.Plain, Value.plain_normal, Entries.plain_normal]
    simp only [Key.normal_text]
    refine and_congr_right (fun ⟨text, same⟩ => and_congr_left' (not_congr ?_))
    subst same
    rw [Entries.mem_keys_normal]
    constructor
    · rintro ⟨other, member, same⟩
      exact Key.normal_text.mp same ▸ member
    · exact fun member => ⟨_, member, rfl⟩

end

end Plain

section Object

/-- A decoded dictionary. -/
structure Object where
  entries : Entries
  plain : entries.Plain
  deriving DecidableEq

def Object.empty : Object := ⟨.nil, trivial⟩

/-- The dictionary that is decoded from the text of another one, unless the encoder
raises. -/
def Entries.decoded (entries : Entries) : Option Object :=
  match done : (Value.dict entries).roundTrip with
  | some (.dict kept) => some ⟨kept, Value.roundTrip_plain done⟩
  | _ => none

/-- A dictionary that equals what is decoded from its text. -/
def Entries.RoundTrips (entries : Entries) : Prop :=
  ∃ kept, entries.decoded = some kept ∧ kept.entries.normal = entries.normal

variable {entries other : Entries} {object : Object}

theorem Entries.Plain.decoded (plain : entries.Plain) : entries.decoded = some ⟨entries, plain⟩ := by
  have done : (Value.dict entries).roundTrip = some (.dict entries) := Value.Plain.roundTrip plain
  unfold Entries.decoded
  split
  next kept made =>
    rw [made] at done
    cases done
    rfl
  next others => exact absurd done (others _)

theorem Entries.roundTrips_iff : entries.RoundTrips ↔ entries.Plain := by
  constructor
  · rintro ⟨kept, _, same⟩
    rw [← Entries.plain_normal, ← same, Entries.plain_normal]
    exact kept.plain
  · exact fun plain => ⟨_, plain.decoded, rfl⟩

/-- What equals a decoded dictionary round-trips. -/
theorem Object.roundTrips (same : object.entries.normal = entries.normal) : entries.RoundTrips := by
  rw [Entries.roundTrips_iff, ← Entries.plain_normal, ← same, Entries.plain_normal]
  exact object.plain

end Object

end WebSupervisor.Library.Json
