import Mathlib
import Stencil.Data
import Stencil.Proofs.Numerals
import Stencil.Proofs.Ordered

/-!
# Values mirror data

The value that is made of data has the data's own shape. What can keep there from being one is an
integer that is no word, or an entry without a name, at any depth and also inside of keys. A
conversion is described by what has to be well with the data and by what the value is then, and
the parts of a conversion one after the other need all to be well.
-/

namespace Stencil

namespace Conversion

variable {α β : Type}

/-- There is a value just if all is well, and the statement holds of it. -/
def Settles (well : Prop) (holds : α → Prop) (conversion : Conversion α) : Prop :=
  ∀ unused, match (conversion unused).1 with
    | .ok value => well ∧ holds value
    | .error _ => ¬ well

variable {well wellToo : Prop} {holds : α → Prop} {holdsToo : β → Prop}
  {conversion : Conversion α}

/-- Where all is well a value can be given. -/
theorem settles_pure {value : α} (isWell : well) (holdsOf : holds value) :
    Settles well holds (pure value : Conversion α) := fun _ => ⟨isWell, holdsOf⟩

/-- So can one be made anew, which cannot fail. -/
theorem settles_lift {fresh : Fresh α} (isWell : well)
    (holdsOf : ∀ unused, holds (fresh unused).1) :
    Settles well holds (liftM fresh : Conversion α) := fun unused => ⟨isWell, holdsOf unused⟩

/-- Where all is not well a cause can be thrown. -/
theorem settles_throw {cause : Cause} (notWell : ¬ well) :
    Settles well holds (throw cause : Conversion α) := fun _ => notWell

/-- A result that is there already is the value, or the cause why there is none. -/
theorem settles_result (result : Except Cause α) :
    Settles (result.toOption ≠ none) (fun value => result.toOption = some value)
      (liftM result : Conversion α) := by
  intro unused
  cases result with
  | ok value => exact ⟨nofun, rfl⟩
  | error cause => exact fun isThere => isThere rfl

/-- A conversion goes on with the value of the one before it, if there is one. -/
theorem bind_apply (conversion : Conversion α) (next : α → Conversion β) (unused : Nat) :
    (conversion >>= next) unused = match conversion unused with
      | (.ok value, later) => next value later
      | (.error cause, later) => (.error cause, later) := by
  simp only [bind, ExceptT.bind, ExceptT.mk, StateT.bind]
  rcases conversion unused with ⟨_ | _, later⟩ <;> rfl

/-- Of two conversions one after the other both have to be well. -/
theorem Settles.bind {next : α → Conversion β} (settles : Settles well holds conversion)
    (onward : ∀ value, holds value → Settles wellToo holdsToo (next value)) :
    Settles (well ∧ wellToo) holdsToo (conversion >>= next) := by
  intro unused
  have first := settles unused
  rw [bind_apply]
  generalize conversion unused = outcome at first
  rcases outcome with ⟨cause | value, later⟩
  · exact fun both => first both.1
  · have second := onward value first.2 later
    simp only
    split at second
    · exact ⟨⟨first.1, second.1⟩, second.2⟩
    · exact fun both => second both.2

/-- Of the value less can be said. -/
theorem Settles.imp {holdsToo : α → Prop} (settles : Settles well holds conversion)
    (weaker : ∀ value, holds value → holdsToo value) : Settles well holdsToo conversion := by
  intro unused
  have outcome := settles unused
  split at outcome
  · exact ⟨outcome.1, weaker _ outcome.2⟩
  · exact outcome

/-- What has to be well can be said in other words. -/
theorem Settles.congr (settles : Settles well holds conversion) (same : wellToo ↔ well) :
    Settles wellToo holds conversion := by
  rwa [same]

end Conversion

namespace Data

open Conversion (Settles settles_pure settles_throw settles_lift settles_result)

/-- What the data is made of: keys come before what stands under them. -/
def parts : Data → List Data
  | .wrapped inner | .variant _ inner | .keyless inner => [inner]
  | .sequence items => items
  | .mapping entries => entries.flatMap fun entry => [entry.1, entry.2]
  | .fields members => members.map Prod.snd
  | _ => []

/-- Some data is a part of other data at any depth, or is that data. -/
inductive Contains : Data → Data → Prop
  | itself (data : Data) : Contains data data
  | inside {data inner part : Data} (isPart : inner ∈ data.parts)
      (contains : Contains inner part) : Contains data part

/-- The name of an entry with the data as its key. An integer and the text of its numeral are the
same name. -/
def name? : Data → Option String
  | .boolean value => some (if value then "true" else "false")
  | .integer value => some (toString value)
  | .number format value => some (format.text value)
  | .text value => some value
  | .wrapped inner => inner.name?
  | _ => none

/-- Data of which there is no value, whatever its parts are. -/
def Fails : Data → Prop
  | .integer value => ¬ Text.IsWord value
  | .mapping entries => ∃ entry ∈ entries, entry.1.name? = none
  | .unsupported _ | .keyless _ | .refusing _ => True
  | _ => False

/-- A property of the data and of its parts at any depth. -/
def Throughout (property : Data → Prop) (data : Data) : Prop :=
  ∀ part, data.Contains part → property part

/-- Data has a property throughout if it has it and its parts have it throughout. -/
theorem throughout_iff {property : Data → Prop} {data : Data} :
    data.Throughout property ↔
      property data ∧ ∀ part ∈ data.parts, part.Throughout property := by
  constructor
  · intro throughout
    exact ⟨throughout data (.itself data), fun part isPart deep contains =>
      throughout deep (.inside isPart contains)⟩
  · rintro ⟨itself, inner⟩ part contains
    cases contains with
    | itself => exact itself
    | inside isPart contains => exact inner _ isPart part contains

/-- Data without parts has it throughout if it has it. -/
theorem throughout_leaf {property : Data → Prop} {data : Data} (isLeaf : data.parts = [])
    (itself : property data) : data.Throughout property := by
  rw [throughout_iff, isLeaf]
  exact ⟨itself, nofun⟩

/-- No part of the data fails. -/
def Sound (data : Data) : Prop := data.Throughout fun part => ¬ part.Fails

/-- Data that fails is not sound. -/
theorem not_sound {data : Data} (fails : data.Fails) : ¬ data.Sound :=
  fun sound => sound data (.itself data) fails

/-- Data that does not fail is sound if its parts are. -/
theorem sound_iff {data : Data} (lasts : ¬ data.Fails) :
    data.Sound ↔ ∀ part ∈ data.parts, part.Sound :=
  throughout_iff.trans (and_iff_right lasts)

/-- A map is sound if each key is sound and has a name, and what stands under it is sound. -/
theorem sound_mapping_iff {entries : List (Data × Data)} :
    (Data.mapping entries).Sound ↔
      ∀ entry ∈ entries, entry.1.Sound ∧ entry.1.name? ≠ none ∧ entry.2.Sound := by
  refine throughout_iff.trans ?_
  simp only [Fails, parts, List.mem_flatMap, List.mem_cons, List.not_mem_nil, or_false]
  constructor
  · rintro ⟨named, inner⟩ entry member
    exact ⟨inner _ ⟨entry, member, .inl rfl⟩, fun missing => named ⟨entry, member, missing⟩,
      inner _ ⟨entry, member, .inr rfl⟩⟩
  · intro each
    refine ⟨fun ⟨entry, member, missing⟩ => (each entry member).2.1 missing, ?_⟩
    rintro part ⟨entry, member, rfl | rfl⟩
    · exact (each entry member).1
    · exact (each entry member).2.2

/-- The value has the shape of the data. A sequence keeps its elements in order, the entries of a
map stand under the names of their keys, and a variant is a record with one entry. -/
inductive Mirrors : Data → Value → Prop
  | unit : Mirrors .unit .none
  | boolean (value : Bool) : Mirrors (.boolean value) (.boolean value)
  | integer {word : Int64} {value : Int} (same : word.toInt = value) :
      Mirrors (.integer value) (.integer word)
  | number (format : Number.BinaryFormat) (value : Number.Binary) :
      Mirrors (.number format value) (.text (format.text value))
  | text (value : String) : Mirrors (.text value) (.text value)
  | bytes {values : List UInt8} {numbers : List Value} (mark : Nat)
      (each : List.Forall₂ Mirrors (values.map fun byte => .integer byte.toNat) numbers) :
      Mirrors (.bytes values) (.plain (.list mark numbers))
  | wrapped {inner : Data} {value : Value} (mirrors : Mirrors inner value) :
      Mirrors (.wrapped inner) value
  | variant {inner : Data} {value : Value} (mark : Nat) (name : String)
      (mirrors : Mirrors inner value) :
      Mirrors (.variant name inner) (.plain (.record mark none [(name, value)]))
  | sequence {items : List Data} {values : List Value} (mark : Nat)
      (each : List.Forall₂ Mirrors items values) :
      Mirrors (.sequence items) (.plain (.list mark values))
  | mapping {entries : List (Data × Data)} {pairs : List (String × Value)} {gathered : Named Value}
      (mark : Nat)
      (named : entries.map (fun entry => entry.1.name?) = pairs.map fun pair => some pair.1)
      (each : List.Forall₂ Mirrors (entries.map Prod.snd) (pairs.map Prod.snd))
      (latest : gathered.Latest pairs) :
      Mirrors (.mapping entries) (.plain (.record mark none gathered))
  | fields {members : List (String × Data)} {pairs : List (String × Value)}
      {gathered : Named Value} (mark : Nat) (named : members.map Prod.fst = pairs.map Prod.fst)
      (each : List.Forall₂ Mirrors (members.map Prod.snd) (pairs.map Prod.snd))
      (latest : gathered.Latest pairs) :
      Mirrors (.fields members) (.plain (.record mark none gathered))

/-- The numbers of bytes are words. -/
theorem mirrors_bytes (values : List UInt8) :
    List.Forall₂ Mirrors (values.map fun byte => .integer byte.toNat)
      (values.map fun byte => .natural byte.toNat) := by
  refine List.forall₂_map_left_iff.mpr (List.forall₂_map_right_iff.mpr ?_)
  refine List.forall₂_same.mpr fun byte _ => .integer ?_
  have bound : byte.toNat < 256 := byte.toNat_lt
  exact Int64.toInt_ofNat_of_lt (by omega)

/-- The value of a key is named as the key is. -/
theorem keyText_of_mirrors : ∀ {key : Data} {value : Value}, key.Mirrors value →
    (keyText value).toOption = key.name?
  | _, _, .unit => rfl
  | _, _, .boolean value => rfl
  | _, _, .integer same => by
    rw [name?, ← same, ← Text.decimalWord_eq]
    rfl
  | _, _, .number .. => rfl
  | _, _, .text _ => rfl
  | _, _, .bytes .. => rfl
  | _, _, .wrapped mirrors => by
    rw [name?]
    exact keyText_of_mirrors mirrors
  | _, _, .variant .. => rfl
  | _, _, .sequence .. => rfl
  | _, _, .mapping .. => rfl
  | _, _, .fields .. => rfl

mutual

/-- There is a value of the data just if the data is sound, and the value mirrors it. -/
theorem settles_toValue : ∀ data : Data, Settles data.Sound data.Mirrors data.toValue
  | .unit => settles_pure (throughout_leaf rfl id) .unit
  | .boolean value => settles_pure (throughout_leaf rfl id) (.boolean value)
  | .integer value => by
    by_cases isWord : Text.IsWord value
    · have read := Text.toWord?_of_isWord isWord
      have made : toValue (.integer value) = pure (.integer (Int64.ofInt value)) := by
        simp [toValue, read]
      rw [made]
      exact settles_pure (throughout_leaf rfl (not_not.mpr isWord))
        (.integer (Text.toInt_of_toWord? _ _ read))
    · have made : toValue (.integer value) = throw .integerRange := by
        simp [toValue, Text.toWord?_of_not_isWord isWord]
      rw [made]
      exact settles_throw (not_sound isWord)
  | .unsupported _ => settles_throw (not_sound trivial)
  | .number format value => settles_pure (throughout_leaf rfl id) (.number format value)
  | .text value => settles_pure (throughout_leaf rfl id) (.text value)
  | .bytes values =>
    settles_lift (throughout_leaf rfl id) fun mark => .bytes mark (mirrors_bytes values)
  | .wrapped inner =>
    ((settles_toValue inner).imp fun _ => .wrapped).congr ((sound_iff id).trans (by simp [parts]))
  | .variant name inner =>
    ((settles_toValue inner).bind fun _ mirrors =>
      settles_lift trivial fun mark => .variant mark name mirrors).congr
      ((sound_iff id).trans (by simp [parts]))
  | .sequence items =>
    ((settles_items items).bind fun _ each =>
      settles_lift trivial fun mark => .sequence mark each).congr
      ((sound_iff id).trans (by simp [parts]))
  | .mapping entries =>
    ((settles_entries entries).bind fun pairs ⟨named, each⟩ =>
      settles_lift trivial fun mark => .mapping mark named each (Named.latest_ofPairs pairs)).congr
      (by simp [sound_mapping_iff])
  | .keyless _ => settles_throw (not_sound trivial)
  | .fields members =>
    ((settles_fields members).bind fun pairs ⟨named, each⟩ =>
      settles_lift trivial fun mark => .fields mark named each (Named.latest_ofPairs pairs)).congr
      ((sound_iff id).trans (by simp only [parts, List.forall_mem_map, and_true]))
  | .refusing _ => settles_throw (not_sound trivial)

/-- The elements of a sequence need all to be sound, and their values mirror them in order. -/
theorem settles_items : ∀ items : List Data,
    Settles (∀ item ∈ items, item.Sound) (List.Forall₂ Mirrors items) (itemsToValues items)
  | [] => settles_pure nofun .nil
  | item :: rest =>
    ((settles_toValue item).bind fun _ mirrors =>
      (settles_items rest).bind fun _ each => settles_pure trivial (.cons mirrors each)).congr
      (by simp)

/-- The keys and what stands under them need all to be sound, and the keys to have names. -/
theorem settles_entries : ∀ entries : List (Data × Data),
    Settles (∀ entry ∈ entries, entry.1.Sound ∧ entry.1.name? ≠ none ∧ entry.2.Sound)
      (fun pairs => entries.map (fun entry => entry.1.name?) = pairs.map (fun pair => some pair.1) ∧
        List.Forall₂ Mirrors (entries.map Prod.snd) (pairs.map Prod.snd))
      (entriesToValues entries)
  | [] => settles_pure nofun ⟨rfl, .nil⟩
  | (key, inner) :: rest =>
    -- A value may be there and name nothing, so the key is asked twice: for it and for its name.
    ((settles_toValue key).bind fun value isKey => by
      have named := settles_result (keyText value)
      rw [keyText_of_mirrors isKey] at named
      exact named.bind fun name isName =>
        (settles_toValue inner).bind fun _ mirrors =>
          (settles_entries rest).bind fun _ later =>
            settles_pure trivial ⟨by simp [isName, later.1], .cons mirrors later.2⟩).congr
      (by simp [and_assoc])

/-- What stands in the fields needs all to be sound, and its values mirror it in order. -/
theorem settles_fields : ∀ members : List (String × Data),
    Settles (∀ member ∈ members, member.2.Sound)
      (fun pairs => members.map Prod.fst = pairs.map Prod.fst ∧
        List.Forall₂ Mirrors (members.map Prod.snd) (pairs.map Prod.snd))
      (fieldsToValues members)
  | [] => settles_pure nofun ⟨rfl, .nil⟩
  | (name, inner) :: rest =>
    ((settles_toValue inner).bind fun _ mirrors =>
      (settles_fields rest).bind fun _ later =>
        settles_pure trivial ⟨by simp [later.1], .cons mirrors later.2⟩).congr
      (by simp)

end

/-- Data of the common kinds: an integer has at most 64 bits, no map gives a value before its key,
and nothing refuses. -/
def Usual : Data → Prop
  | .integer value => -2 ^ 63 ≤ value ∧ value < 2 ^ 64
  | .unsupported _ | .keyless _ | .refusing _ => False
  | _ => True

/-- The data is an integer above all words, or a map with a key that is not made a text, an
integer or a truth value. -/
def Offends : Data → Prop
  | .integer value => 2 ^ 63 - 1 < value
  | .mapping entries => ∃ entry ∈ entries, entry.1.name? = none
  | _ => False

/-- Usual data fails just if it offends. -/
theorem Usual.fails_iff {data : Data} (usual : data.Usual) : data.Fails ↔ data.Offends := by
  cases data with
  | integer value =>
    have bounds : -2 ^ 63 ≤ value ∧ value < 2 ^ 64 := usual
    simp only [Fails, Offends, Text.IsWord]
    omega
  | unsupported => exact usual.elim
  | keyless => exact usual.elim
  | refusing => exact usual.elim
  | _ => exact Iff.rfl

/-- Usual data is sound just if no part of it offends. -/
theorem sound_iff_of_usual {data : Data} (usual : data.Throughout Usual) :
    data.Sound ↔ ¬ ∃ part, data.Contains part ∧ part.Offends := by
  simp only [not_exists, not_and]
  exact forall₂_congr fun part contains => not_congr (usual part contains).fails_iff

/-- Values mirror their data. Data of the common kinds has no value just if somewhere in it, keys
included, an integer is above all words or the key of a map has no name. Otherwise there is one,
and it has the shape of the data: elements keep their order, and entries stand under the names of
their keys, of which the last counts. -/
theorem values_mirror_data {data : Data} (usual : data.Throughout Usual) (unused : Nat) :
    ((∃ cause, (data.toValue unused).1 = .error cause) ↔
        ∃ part, data.Contains part ∧ part.Offends) ∧
      ((¬ ∃ part, data.Contains part ∧ part.Offends) →
        ∃ value, (data.toValue unused).1 = .ok value ∧ data.Mirrors value) := by
  have settled := settles_toValue data unused
  rw [sound_iff_of_usual usual] at settled
  generalize (data.toValue unused).1 = result at settled
  cases result with
  | error cause => exact ⟨by simpa using settled, fun well => (settled well).elim⟩
  | ok value => exact ⟨by simpa using settled.1, fun _ => ⟨value, rfl, settled.2⟩⟩

/-- An integer and a text with its numeral are one key, and the later entry stays. An integer
above all words is found where it is a key. -/
theorem values_mirror_collision :
    let entries : Data := .mapping [(.integer 7, .unit), (.text "7", .variant "Some" (.text "x"))]
    let excess : Data := .sequence [.mapping [(.wrapped (.integer (2 ^ 63)), .unit)]]
    (entries.Throughout Usual ∧ ∃ value, (entries.toValue 0).1 = .ok value ∧
      entries.Mirrors value ∧
      value = .plain (.record 1 none [("7", .plain (.record 0 none [("Some", .text "x")]))])) ∧
    excess.Throughout Usual ∧ ∃ cause, (excess.toValue 0).1 = .error cause := by
  intro entries excess
  have unit : Data.unit.Throughout Usual := throughout_leaf rfl trivial
  have text (shown : String) : (Data.text shown).Throughout Usual := throughout_leaf rfl trivial
  have seven : (Data.integer 7).Throughout Usual := throughout_leaf rfl ⟨by norm_num, by norm_num⟩
  have large : (Data.integer (2 ^ 63)).Throughout Usual :=
    throughout_leaf rfl ⟨by norm_num, by norm_num⟩
  have usual : entries.Throughout Usual := by
    refine throughout_iff.mpr ⟨trivial, ?_⟩
    have some : (Data.variant "Some" (.text "x")).Throughout Usual :=
      throughout_iff.mpr ⟨trivial, by simpa [parts] using text "x"⟩
    simpa [entries, parts] using ⟨seven, unit, text "7", some⟩
  have usualToo : excess.Throughout Usual := by
    have wrapped : (Data.wrapped (.integer (2 ^ 63))).Throughout Usual :=
      throughout_iff.mpr ⟨trivial, by simpa [parts] using large⟩
    have mapping : (Data.mapping [(.wrapped (.integer (2 ^ 63)), .unit)]).Throughout Usual :=
      throughout_iff.mpr ⟨trivial, by simpa [parts] using ⟨wrapped, unit⟩⟩
    exact throughout_iff.mpr ⟨trivial, by simpa [excess, parts] using mapping⟩
  have made : (entries.toValue 0).1 =
      .ok (.plain (.record 1 none [("7", .plain (.record 0 none [("Some", .text "x")]))])) := rfl
  obtain ⟨fails, mirrors⟩ := values_mirror_data usual 0
  obtain ⟨failsToo, -⟩ := values_mirror_data usualToo 0
  have well : ¬ ∃ part, entries.Contains part ∧ part.Offends := by
    intro offends
    obtain ⟨cause, failed⟩ := fails.mpr offends
    cases made.symm.trans failed
  obtain ⟨value, isValue, isMirror⟩ := mirrors well
  refine ⟨⟨usual, value, isValue, isMirror, Except.ok.inj (isValue.symm.trans made)⟩, usualToo, ?_⟩
  have contains : excess.Contains (.integer (2 ^ 63)) :=
    .inside (List.mem_singleton_self _) (.inside List.mem_cons_self
      (.inside (List.mem_singleton_self _) (.itself _)))
  exact failsToo.mpr ⟨_, contains, by norm_num [Offends]⟩

end Data

end Stencil
