/-
# JSON

What the crates `serde` and `serde_json`, which are not part of the repository, make
of the structures of `crates/common/src/protocol.rs`.  `to_vec` writes a tree
(`Json`) in the compact form.  A structure is written as an object of its fields in
their order, and is read from any object in which no field of it occurs twice: other
fields are ignored, and a field with a default may be missing.  It is also read from
an array of its fields in their order.
-/

import Clustat.Common.Frame

namespace Clustat

/-- A JSON text.  Integers of at most 64 bits are kept apart from other numbers. -/
inductive Json
  | null
  | bool (b : Bool)
  | posInt (n : UInt64)
  | negInt (n : Int64)
  | float (literal : String)
  | str (s : String)
  | arr (items : List Json)
  | obj (fields : List (String × Json))

namespace Json

/-! ### Writing -/

/-- A lower case hexadecimal digit. -/
def hexDigit (n : ℕ) : Char := Nat.digitChar (n % 16)

/-- A character in a string. -/
def escape (c : Char) : List Char :=
  match c.toNat with
  | 0x22 => ['\\', '\x22']
  | 0x5c => ['\\', '\\']
  | 0x08 => ['\\', 'b']
  | 0x09 => ['\\', 't']
  | 0x0a => ['\\', 'n']
  | 0x0c => ['\\', 'f']
  | 0x0d => ['\\', 'r']
  | n => if n < 0x20 then ['\\', 'u', '0', '0', hexDigit (n / 16), hexDigit n] else [c]

/-- A string in its quotes. -/
def quote (s : String) : List Char := '\x22' :: s.toList.flatMap escape ++ ['\x22']

mutual

/-- The compact text of a tree. -/
def toText : Json → List Char
  | .null => "null".toList
  | .bool b => if b then "true".toList else "false".toList
  | .posInt n => Nat.toDigits 10 n.toNat
  | .negInt n => (toString n.toInt).toList
  | .float literal => literal.toList
  | .str s => quote s
  | .arr items => '[' :: List.intercalate [','] (itemTexts items) ++ [']']
  | .obj fields => '\x7b' :: List.intercalate [','] (fieldTexts fields) ++ ['\x7d']

/-- The texts of the items of an array. -/
def itemTexts : List Json → List (List Char)
  | [] => []
  | v :: vs => v.toText :: itemTexts vs

/-- The texts of the fields of an object. -/
def fieldTexts : List (String × Json) → List (List Char)
  | [] => []
  | (name, v) :: fields => (quote name ++ ':' :: v.toText) :: fieldTexts fields

end

/-- `serde_json::to_vec`, given the tree. -/
def toVec (v : Json) : Bytes := v.toText.flatMap String.utf8EncodeChar

/-- A reader gets the tree of an object from its text, and none from a part of the
text: there the object is not closed. -/
def ReadBy (v : Json) (read : Bytes → Option Json) : Prop :=
  read v.toVec = some v ∧ ∀ n < v.toVec.length, read (v.toVec.take n) = none

/-! ### Reading -/

/-- A `u8`. -/
def u8 : Json → Option UInt8
  | .posInt n => if n.toNat < 2 ^ 8 then some n.toUInt8 else none
  | _ => none

/-- A `u16`. -/
def u16 : Json → Option UInt16
  | .posInt n => if n.toNat < 2 ^ 16 then some n.toUInt16 else none
  | _ => none

/-- A `u32`. -/
def u32 : Json → Option UInt32
  | .posInt n => if n.toNat < 2 ^ 32 then some n.toUInt32 else none
  | _ => none

/-- A `u64`. -/
def u64 : Json → Option UInt64
  | .posInt n => some n
  | _ => none

/-- An `i64`. -/
def i64 : Json → Option Int64
  | .posInt n => if n.toNat < 2 ^ 63 then some n.toInt64 else none
  | .negInt n => some n
  | _ => none

/-- A `bool`. -/
def bool? : Json → Option Bool
  | .bool b => some b
  | _ => none

/-- A `String`. -/
def str? : Json → Option String
  | .str s => some s
  | _ => none

/-- An `Option`. -/
def option {α : Type} (read : Json → Option α) : Json → Option (Option α)
  | .null => some none
  | v => (read v).map some

/-- A `Vec`. -/
def vec {α : Type} (read : Json → Option α) : Json → Option (List α)
  | .arr items => items.mapM read
  | _ => none

/-- A tree that a structure of `n` fields can be read from. -/
def holds (n : ℕ) : Json → Bool
  | .obj _ => true
  | .arr items => items.length ≤ n
  | _ => false

/-- What there is for the field with a number and a name. -/
def values (v : Json) (i : ℕ) (name : String) : List Json :=
  match v with
  | .obj fields => (fields.filter (·.1 = name)).map Prod.snd
  | .arr items => items[i]?.toList
  | _ => []

/-- A field that has to be there. -/
def required {α : Type} (v : Json) (i : ℕ) (name : String) (read : Json → Option α) : Option α :=
  match v.values i name with
  | [x] => read x
  | _ => none

/-- A field with `#[serde(default)]`. -/
def defaulted {α : Type} (v : Json) (i : ℕ) (name : String) (default : α)
    (read : Json → Option α) : Option α :=
  match v.values i name with
  | [] => some default
  | [x] => read x
  | _ => none

/-- An `Option` with no default may be missing from an object. -/
def optional {α : Type} (v : Json) (i : ℕ) (name : String) (read : Json → Option α) :
    Option (Option α) :=
  match v with
  | .obj _ => v.defaulted i name none (option read)
  | _ => v.required i name (option read)

/-- A `u8` is read from the number it is written as. -/
@[simp] theorem u8_posInt (n : UInt8) : (posInt n.toUInt64).u8 = some n := by
  have hn : n.toNat < 256 := n.toNat_lt
  simp [u8, hn]

/-- A `u16` is read from the number it is written as. -/
@[simp] theorem u16_posInt (n : UInt16) : (posInt n.toUInt64).u16 = some n := by
  have hn : n.toNat < 65536 := n.toNat_lt
  simp [u16, hn]

/-- A string is read from the value it is written as. -/
theorem str?_str (s : String) : (str s).str? = some s := rfl

/-- A `u64` is read from the number it is written as. -/
theorem u64_posInt (n : UInt64) : (posInt n).u64 = some n := rfl

/-- A `u32` is read from the number it is written as. -/
@[simp] theorem u32_posInt (n : UInt32) : (posInt n.toUInt64).u32 = some n := by
  have hn : n.toNat < 4294967296 := n.toNat_lt
  simp [u32, hn]

/-- How an `i64` is written. -/
def ofInt64 (n : Int64) : Json := if 0 ≤ n then .posInt n.toUInt64 else .negInt n

/-- An `i64` is read from the number it is written as, of either sign. -/
@[simp] theorem i64_ofInt64 (n : Int64) : (ofInt64 n).i64 = some n := by
  unfold ofInt64
  split_ifs with hn
  · have hsmall : n.toUInt64.toNat < 2 ^ 63 := by
      rw [Int64.toNat_toUInt64_of_le hn]
      exact n.toNatClampNeg_lt
    simp only [i64, hsmall, if_true]
    rfl
  · rfl

/-- How an `Option` is written. -/
def ofOption {α : Type} (write : α → Json) : Option α → Json
  | none => .null
  | some x => write x

/-- An `Option` is read as it was written, if that is not `null`. -/
theorem option_ofOption {α : Type} {write : α → Json} {read : Json → Option α}
    (hread : ∀ x, read (write x) = some x) (hnull : ∀ x, write x ≠ .null) (o : Option α) :
    option read (ofOption write o) = some o := by
  cases o with
  | none => rfl
  | some x =>
    have hsome : option read (write x) = (read (write x)).map some := by
      unfold option
      split
      · rename_i heq
        exact absurd heq (hnull x)
      · rfl
    rw [ofOption, hsome, hread]
    rfl

/-- A list is read as it was written. -/
theorem vec_arr {α : Type} {write : α → Json} {read : Json → Option α}
    (hread : ∀ x, read (write x) = some x) (xs : List α) :
    vec read (.arr (xs.map write)) = some xs := by
  rw [vec, List.mapM_map]
  induction xs with
  | nil => rfl
  | cons x xs ih =>
    rw [List.mapM_cons, Function.comp_apply, hread, ih]
    rfl

/-- A field with `skip_serializing_if = "Option::is_none"`. -/
def unlessNone {α : Type} (name : String) (write : α → Json) (o : Option α) :
    List (String × Json) :=
  (o.map fun x => (name, write x)).toList

/-- A field that is left out where it is `None` stands under its own name
only. -/
@[simp] theorem filter_unlessNone {α : Type} (name name' : String) (write : α → Json)
    (o : Option α) : (unlessNone name write o).filter (·.1 = name') =
      if name = name' then unlessNone name write o else [] := by
  split_ifs with h <;> cases o <;> simp [unlessNone, h]

/-- A field that is left out where it is `None` has one value or none. -/
@[simp] theorem map_snd_unlessNone {α : Type} (name : String) (write : α → Json)
    (o : Option α) : (unlessNone name write o).map Prod.snd = (o.map write).toList := by
  cases o <;> rfl

/-- An `Option` that is left out when it is `None` is read as it was written. -/
theorem defaulted_of_values {α : Type} {v : Json} {i : ℕ} {name : String} (write : α → Json)
    {read : Json → Option α} {o : Option α} (hv : v.values i name = (o.map write).toList)
    (hread : ∀ x, read (write x) = some x) (hnull : ∀ x, write x ≠ .null) :
    v.defaulted i name none (option read) = some o := by
  rw [defaulted, hv]
  cases o with
  | none => rfl
  | some x => exact option_ofOption hread hnull (some x)

/-! ### Values -/

/-- `Value::is_null`. -/
def isNull : Json → Bool
  | .null => true
  | _ => false

/-- `Value::get`, of a name: a map has the last of the fields with one name. -/
def get? (v : Json) (name : String) : Option Json :=
  match v with
  | .obj fields => ((fields.filter (·.1 = name)).map Prod.snd).getLast?
  | _ => none

/-- The field with a number and a name: in an object the last one. -/
def field (v : Json) (i : ℕ) (name : String) : Option Json := (v.values i name).getLast?

/-- A field that is there and not `null`. -/
def given (v : Json) (i : ℕ) (name : String) : Option Json :=
  (v.field i name).filter fun x => !x.isNull

/-- What has a field is an object. -/
theorem exists_obj {v x : Json} {name : String} (h : v.get? name = some x) :
    ∃ fields, v = .obj fields := by
  cases v with
  | obj fields => exact ⟨fields, rfl⟩
  | _ => cases h

/-- The only value that reads as a given `u8` is that number: no string, no
float. -/
theorem u8_eq_some {v : Json} {n : UInt8} : v.u8 = some n ↔ v = .posInt n.toUInt64 := by
  refine ⟨fun h => ?_, fun h => h ▸ u8_posInt n⟩
  cases v with
  | posInt m =>
    simp only [u8, Option.ite_none_right_eq_some] at h
    obtain ⟨hm, h⟩ := h
    have hback : m.toUInt8.toUInt64 = m := by
      rw [← UInt64.toNat_inj]
      simp
      omega
    rw [← Option.some.inj h, hback]
  | _ => cases h

/-- The only value that reads as a given `u16` is that number. -/
theorem u16_eq_some {v : Json} {n : UInt16} : v.u16 = some n ↔ v = .posInt n.toUInt64 := by
  refine ⟨fun h => ?_, fun h => h ▸ u16_posInt n⟩
  cases v with
  | posInt m =>
    simp only [u16, Option.ite_none_right_eq_some] at h
    obtain ⟨hm, h⟩ := h
    have hback : m.toUInt16.toUInt64 = m := by
      rw [← UInt64.toNat_inj]
      simp
      omega
    rw [← Option.some.inj h, hback]
  | _ => cases h

/-- The only value that reads as a given string is that string. -/
theorem str?_eq_some {v : Json} {s : String} : v.str? = some s ↔ v = .str s := by
  refine ⟨fun h => ?_, fun h => h ▸ rfl⟩
  cases v with
  | str t => exact congrArg _ (Option.some.inj h)
  | _ => cases h

/-- A field that has been read. -/
theorem field_of_required {α : Type} {v : Json} {i : ℕ} {name : String} {read : Json → Option α}
    {x : α} (h : v.required i name read = some x) :
    ∃ y, v.field i name = some y ∧ read y = some x := by
  rw [required] at h
  split at h
  · rename_i y hvalues
    exact ⟨y, by rw [field, hvalues]; rfl, h⟩
  · cases h

/-- An `Option` with a default is what has been read of the field, should it be given. -/
theorem given_of_defaulted {α : Type} {v : Json} {i : ℕ} {name : String} {read : Json → Option α}
    {o : Option α} (h : v.defaulted i name none (option read) = some o) :
    (v.given i name).map read = o.map some := by
  rw [defaulted] at h
  split at h
  · rename_i hvalues
    obtain rfl := Option.some.inj h
    rw [given, field, hvalues]
    rfl
  · rename_i y hvalues
    have hfield : v.field i name = some y := by
      rw [field, hvalues]
      rfl
    cases y with
    | null =>
      obtain rfl := Option.some.inj h
      rw [given, hfield]
      rfl
    | _ =>
      rw [option] at h
      obtain ⟨x, hx, rfl⟩ := Option.map_eq_some_iff.1 h
      rw [given, hfield, Option.map_some, ← hx]
      rfl
      all_goals exact nofun
  · cases h

/-! ### Lines -/

/-- A tree whose text has no line feed. -/
def Inline (v : Json) : Prop := '\n' ∉ v.toText

/-- Every character of a string that needs it is escaped, a line feed among them. -/
theorem lineFeed_not_mem_escape (c : Char) : '\n' ∉ escape c := by
  have hdigit : ∀ n, hexDigit n ≠ '\n' := fun n => by
    have h : ∀ m < 16, Nat.digitChar m ≠ '\n' := by decide
    exact h _ (Nat.mod_lt n (by decide))
  unfold escape
  split
  case h_8 n _ _ _ _ hfeed _ _ =>
    have hc : '\n' ≠ c := fun h => hfeed (by rw [← h]; rfl)
    split_ifs <;> simp [hc, Ne.symm (hdigit _)]
  all_goals decide

/-- **A quoted string has no line feed**: serde_json escapes the control
characters in it, so that any value is written on one line. -/
theorem lineFeed_not_mem_quote (s : String) : '\n' ∉ quote s := by
  intro h
  simp only [quote, List.mem_append, List.mem_cons, List.mem_flatMap, List.not_mem_nil,
    or_false] at h
  rcases h with (h | ⟨c, -, hc⟩) | h
  · exact absurd h (by decide)
  · exact lineFeed_not_mem_escape c hc
  · exact absurd h (by decide)

/-- Commas between texts without line feeds bring none. -/
theorem lineFeed_not_mem_intercalate {ls : List (List Char)} (h : ∀ l ∈ ls, '\n' ∉ l) :
    '\n' ∉ List.intercalate [','] ls := by
  induction ls with
  | nil => exact List.not_mem_nil
  | cons l ls ih =>
    cases ls with
    | nil => simpa using h l
    | cons l' ls =>
      rw [List.intercalate_cons_cons, List.mem_append, List.mem_append]
      rintro ((hl | hl) | hl)
      · exact h l List.mem_cons_self hl
      · exact absurd hl (by decide)
      · exact ih (fun m hm => h m (List.mem_cons_of_mem _ hm)) hl

/-- The texts of the items of an array, one by one. -/
theorem itemTexts_eq (items : List Json) : itemTexts items = items.map toText := by
  induction items with
  | nil => rfl
  | cons v items ih => rw [itemTexts, ih, List.map_cons]

/-- The texts of the fields of an object: the quoted name, a colon and the
value. -/
theorem fieldTexts_eq (fields : List (String × Json)) :
    fieldTexts fields = fields.map fun f => quote f.1 ++ ':' :: f.2.toText := by
  induction fields with
  | nil => rfl
  | cons f fields ih => rw [fieldTexts, ih, List.map_cons]

/-- The text of `null` has no line feed. -/
@[simp] theorem inline_null : null.Inline := by simp [Inline, toText]

/-- The text of a truth value has no line feed. -/
@[simp] theorem inline_bool (b : Bool) : (bool b).Inline := by cases b <;> simp [Inline, toText]

/-- The text of a string has no line feed, even where the string has one. -/
@[simp] theorem inline_str (s : String) : (str s).Inline := lineFeed_not_mem_quote s

/-- The digits of a number are no line feeds. -/
theorem lineFeed_not_mem_toDigits (n : ℕ) : '\n' ∉ Nat.toDigits 10 n := fun h =>
  absurd (Nat.isDigit_of_mem_toDigits (by decide) (by decide) h) (by decide)

/-- The text of a number has no line feed. -/
@[simp] theorem inline_posInt (n : UInt64) : (posInt n).Inline := lineFeed_not_mem_toDigits n.toNat

/-- The text of a negative number has no line feed. -/
theorem inline_negInt (n : Int64) : (negInt n).Inline := by
  rw [Inline, toText, Int.toString_eq_repr]
  cases n.toInt with
  | ofNat m => simpa [Int.repr, Nat.repr] using lineFeed_not_mem_toDigits m
  | negSucc m => simpa [Int.repr, Nat.repr] using lineFeed_not_mem_toDigits (m + 1)

/-- The text of a signed number has no line feed. -/
@[simp] theorem inline_ofInt64 (n : Int64) : (ofInt64 n).Inline := by
  unfold ofInt64
  split_ifs
  · exact inline_posInt _
  · exact inline_negInt n

/-- An optional value has no line feed if no value has. -/
theorem inline_ofOption {α : Type} {write : α → Json} (h : ∀ x, (write x).Inline)
    (o : Option α) : (ofOption write o).Inline := by
  cases o with
  | none => exact inline_null
  | some x => exact h x

/-- An array has no line feed if its items have none. -/
theorem inline_arr {items : List Json} (h : ∀ v ∈ items, v.Inline) : (arr items).Inline := by
  have hitems : '\n' ∉ List.intercalate [','] (itemTexts items) := by
    refine lineFeed_not_mem_intercalate fun l hl => ?_
    rw [itemTexts_eq] at hl
    obtain ⟨v, hv, rfl⟩ := List.mem_map.1 hl
    exact h v hv
  simp [Inline, toText, hitems]

/-- An object has no line feed if the values of its fields have none; the
names are quoted. -/
theorem inline_obj {fields : List (String × Json)} (h : ∀ f ∈ fields, f.2.Inline) :
    (obj fields).Inline := by
  have hfields : '\n' ∉ List.intercalate [','] (fieldTexts fields) := by
    refine lineFeed_not_mem_intercalate fun l hl => ?_
    rw [fieldTexts_eq] at hl
    obtain ⟨f, hf, rfl⟩ := List.mem_map.1 hl
    have hvalue : '\n' ∉ f.2.toText := h f hf
    simp [lineFeed_not_mem_quote, hvalue]
  simp [Inline, toText, hfields]

/-- A written list has no line feed if no written item has. -/
theorem inline_vec {α : Type} {write : α → Json} (h : ∀ x, (write x).Inline) (xs : List α) :
    (arr (xs.map write)).Inline :=
  inline_arr fun v hv => by
    obtain ⟨x, -, rfl⟩ := List.mem_map.1 hv
    exact h x

/-- A field that may be left out has no line feed if no value of it has. -/
theorem inline_unlessNone {α : Type} (name : String) {write : α → Json}
    (h : ∀ x, (write x).Inline) (o : Option α) : ∀ f ∈ unlessNone name write o, f.2.Inline := by
  cases o with
  | none => exact fun f hf => absurd hf List.not_mem_nil
  | some x => exact List.forall_mem_singleton.2 (h x)

/-- `serde_json::to_string`, given the tree. -/
def text (v : Json) : String := .ofList v.toText

end Json

/-! ### Texts -/

/-- The crate `serde_json`: the tree of a text, and what it says of a text in which there is
no value of a type. -/
structure SerdeJson where
  parse : String → Option Json
  message : String → String → String

namespace SerdeJson

/-- `serde_json::from_str`. -/
def fromStr {α : Type} (serde : SerdeJson) (type : String) (read : Json → Option α)
    (s : String) : Except String α :=
  match (serde.parse s).bind read with
  | some x => .ok x
  | none => .error (serde.message type s)

/-- A tree is got back from its text. -/
def Decodes (serde : SerdeJson) (v : Json) : Prop := serde.parse v.text = some v

/-- `from_str` on the text of a value gives what reading the value gives. -/
theorem fromStr_text {α : Type} {serde : SerdeJson} {v : Json} (hv : serde.Decodes v)
    (type : String) {read : Json → Option α} {x : α} (hread : read v = some x) :
    serde.fromStr type read v.text = .ok x := by
  rw [fromStr, hv, Option.bind_some, hread]

end SerdeJson

/-- The crate with its `Value`, which cannot hold what is in every text: a number may be too
large for it, or an object too deep. -/
structure SerdeValue extends SerdeJson where
  fits : String → Bool

/-- `serde_json::from_str`, of a `Value`. -/
def SerdeValue.value (serde : SerdeValue) (s : String) : Option Json :=
  if serde.fits s then serde.parse s else none

end Clustat
