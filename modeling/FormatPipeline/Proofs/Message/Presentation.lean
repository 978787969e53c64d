import FormatPipeline.Message.Decoding
import Mathlib.Algebra.Group.Nat.Defs

/-! The JSON values that present a message from the editor, and that each of them is taken for it. -/

namespace FormatPipeline

open Json (Value)

/-! ## Presentations -/

/-- A natural number of some bits is presented by itself. -/
def PresentsWord (bits n : Nat) (json : Value) : Prop := n < 2 ^ bits ∧ json = .ofNat n

/-- A text is presented by itself. -/
def PresentsText (text : String) (json : Value) : Prop := json = .string text

/-- A truth value is presented by itself. -/
def PresentsSwitch (value : Bool) (json : Value) : Prop := json = .bool value

/-- A value is presented by itself, where a member that is written again is replaced. -/
def PresentsValue (value json : Value) : Prop := json.merge = value

/-- Something that need not be there is presented by null if it is not. -/
def PresentsOptional {α : Type} (presents : α → Value → Prop) : Option α → Value → Prop
  | none, json => json = .null
  | some a, json => presents a json

/-- A position is presented by an object with a row and a column, or by a list of the two. -/
inductive Position.PresentedBy (position : Position) : Value → Prop
  | object {row column : Value} {members extras : List (String × Value)} :
    PresentsWord 32 position.row row → PresentsWord 32 position.column column →
    members.Perm (("row", row) :: ("column", column) :: extras) →
    (∀ extra ∈ extras, extra.1 ≠ "row" ∧ extra.1 ≠ "column") → PresentedBy position (.object members)
  | list {row column : Value} : PresentsWord 32 position.row row →
    PresentsWord 32 position.column column → PresentedBy position (.array [row, column])

/-- A part of a message. -/
structure MessagePart where
  name : String
  /-- The values that present the part. -/
  presents : Value → Prop
  /-- The part is what a message has that does not mention it. -/
  omissible : Prop

namespace Incoming

/-- The name of the kind of message. -/
def typeTag : Incoming → String
  | openDocument .. => "openDocument"
  | updateDocument .. => "updateDocument"
  | closeDocument .. => "closeDocument"
  | scopeChanged .. => "scopeChanged"
  | activeDocumentChanged .. => "activeDocumentChanged"
  | saved .. => "saved"
  | setting .. => "setting"
  | command .. => "command"
  | shutdown => "shutdown"

/-- The parts of a message in the order in which they are declared. -/
def parts : Incoming → List MessagePart
  | openDocument id path displayPath text cursor inScope => [
      ⟨"id", PresentsWord 64 id, False⟩,
      ⟨"path", PresentsText path.text, False⟩,
      ⟨"displayPath", PresentsOptional PresentsText displayPath, displayPath = none⟩,
      ⟨"text", PresentsText text, text = ""⟩,
      ⟨"cursor", cursor.PresentedBy, cursor = ⟨0, 0⟩⟩,
      ⟨"inScope", PresentsSwitch inScope, inScope = true⟩]
  | updateDocument id text cursor => [
      ⟨"id", PresentsWord 64 id, False⟩,
      ⟨"text", PresentsText text, False⟩,
      ⟨"cursor", PresentsOptional Position.PresentedBy cursor, cursor = none⟩]
  | closeDocument id => [⟨"id", PresentsWord 64 id, False⟩]
  | scopeChanged id inScope => [
      ⟨"id", PresentsWord 64 id, False⟩,
      ⟨"inScope", PresentsSwitch inScope, False⟩]
  | activeDocumentChanged id => [⟨"id", PresentsOptional (PresentsWord 64) id, id = none⟩]
  | saved id => [⟨"id", PresentsWord 64 id, False⟩]
  | setting key value => [
      ⟨"key", PresentsText key, False⟩,
      ⟨"value", PresentsValue value, False⟩]
  | command name => [⟨"name", PresentsText name, False⟩]
  | shutdown => []

end Incoming

/-- The members that present parts one after another, where parts may be left out. -/
inductive MessagePart.Written : List MessagePart → List (String × Value) → Prop
  | nil : Written [] []
  | here {part : MessagePart} {json : Value} {parts : List MessagePart} {members : List (String × Value)} :
    part.presents json → Written parts members → Written (part :: parts) ((part.name, json) :: members)
  | leftOut {part : MessagePart} {parts : List MessagePart} {members : List (String × Value)} :
    part.omissible → Written parts members → Written (part :: parts) members

/-- The items that present parts one after another, where the last ones may be left out. -/
inductive MessagePart.Listed : List MessagePart → List Value → Prop
  | leftOut {parts : List MessagePart} : (∀ part ∈ parts, part.omissible) → Listed parts []
  | here {part : MessagePart} {json : Value} {parts : List MessagePart} {items : List Value} :
    part.presents json → Listed parts items → Listed (part :: parts) (json :: items)

/-- The values that present a message. -/
inductive Incoming.PresentedBy (message : Incoming) : Value → Prop
  /-- An object has the tag, the parts, and members with other names, in any order. -/
  | object {members written extras : List (String × Value)} : MessagePart.Written message.parts written →
    members.Perm (("type", .string message.typeTag) :: (written ++ extras)) →
    (∀ extra ∈ extras, extra.1 ≠ "type" ∧ ∀ part ∈ message.parts, extra.1 ≠ part.name) →
    PresentedBy message (.object members)
  /-- A list has the tag and behind it the parts in their order. -/
  | list {items : List Value} : MessagePart.Listed message.parts items →
    PresentedBy message (.array (.string message.typeTag :: items))

/-! ## Members in any order -/

namespace Decoding

/-- The members that are read, with what is read from them. -/
def kept {α : Type} (read : String → Option (Value → Except DecodeError α))
    (members : List (String × Value)) : List (String × α) :=
  -- A member that cannot be read is dropped here, as are all with unknown names.
  members.filterMap fun member =>
    (read member.1).bind fun readField => (readField member.2).toOption.map (member.1, ·)

/-- Whether every member that is read can be. -/
def Readable {α : Type} (read : String → Option (Value → Except DecodeError α))
    (members : List (String × Value)) : Prop :=
  ∀ member ∈ members, ∀ readField, read member.1 = some readField →
    ∃ field, readField member.2 = .ok field

/-- The values of an object are collected if they can be read and no name comes twice. -/
theorem collect_of_readable {α : Type} {read : String → Option (Value → Except DecodeError α)}
    {members : List (String × Value)} {found : List (String × α)} (readable : Readable read members)
    (distinct : ((found ++ kept read members).map (·.1)).Nodup) :
    collect read members found = .ok (found ++ kept read members) := by
  induction members generalizing found with
  | nil => simp [collect, kept]
  | cons member rest ih =>
    obtain ⟨name, value⟩ := member
    have later : Readable read rest := fun other behind => readable other (List.mem_cons_of_mem _ behind)
    cases known : read name with
    | none =>
      -- A name that is not known leaves no trace.
      have same : kept read ((name, value) :: rest) = kept read rest := by simp [kept, known]
      rw [same] at distinct ⊢
      simp only [collect, known]
      exact ih later distinct
    | some readField =>
      obtain ⟨field, fieldRead⟩ := readable (name, value) List.mem_cons_self readField known
      have more : kept read ((name, value) :: rest) = (name, field) :: kept read rest := by
        simp [kept, known, fieldRead, Except.toOption]
      rw [more] at distinct ⊢
      -- A name that was found before would make the member a repeated one, which is refused.
      have new : found.any (·.1 == name) = false := by
        simp only [List.any_eq_false, beq_iff_eq]
        intro other member same
        have apart := distinct
        simp only [List.map_append, List.map_cons, List.nodup_append] at apart
        exact apart.2.2 other.1 (List.mem_map_of_mem member) name List.mem_cons_self same
      have front : found ++ (name, field) :: kept read rest = found ++ [(name, field)] ++ kept read rest := by
        simp
      rw [front] at distinct ⊢
      simp only [collect, known, new, fieldRead, Bool.false_eq_true, if_false]
      exact ih later distinct

/-- What is found under a name does not depend on the order if no name comes twice. -/
theorem lookup_perm {α : Type} {first second : List (String × α)} (perm : first.Perm second)
    (distinct : (first.map (·.1)).Nodup) (name : String) : first.lookup name = second.lookup name := by
  induction perm with
  | nil => rfl
  | cons member _ ih =>
    rw [List.lookup_cons, List.lookup_cons, ih (List.nodup_cons.mp distinct).2]
  | swap front back rest =>
    obtain ⟨first, _⟩ := front
    obtain ⟨second, _⟩ := back
    simp only [List.map_cons, List.nodup_cons, List.mem_cons, not_or] at distinct
    have apart : second ≠ first := distinct.1.1
    -- The name is that of at most one of the two.
    by_cases same : name = second
    · subst same
      simp [List.lookup_cons, beq_false_of_ne apart]
    · simp [List.lookup_cons, beq_false_of_ne same]
  | trans one _ ih ih' => rw [ih distinct, ih' ((one.map _).nodup_iff.mp distinct)]

/-- The order of members makes no difference for what is collected from them. -/
theorem collect_perm {α : Type} {read : String → Option (Value → Except DecodeError α)}
    {members others : List (String × Value)} (perm : members.Perm others)
    (readable : Readable read others) (distinct : ((kept read others).map (·.1)).Nodup) :
    ∃ found, collect read members [] = .ok found ∧
      ∀ name, found.lookup name = (kept read others).lookup name := by
  -- What is kept of the members is kept in another order, with the same distinct names.
  have same : (kept read members).Perm (kept read others) := perm.filterMap _
  have distinctHere : ((kept read members).map (·.1)).Nodup := (same.map _).nodup_iff.mpr distinct
  have readableHere : Readable read members := fun member here => readable member (perm.mem_iff.mp here)
  refine ⟨kept read members, ?_, lookup_perm same distinctHere⟩
  have all := @collect_of_readable _ _ _ [] readableHere (by simpa using distinctHere)
  simpa using all

/-- Members that are not read can stand behind the others. -/
theorem kept_append_of_unknown {α : Type} {read : String → Option (Value → Except DecodeError α)}
    {extras : List (String × Value)} (unknown : ∀ extra ∈ extras, read extra.1 = none)
    (members : List (String × Value)) : kept read (members ++ extras) = kept read members := by
  -- Nothing is kept of the extra members.
  have nothing : kept read extras = [] := by
    simp only [kept, List.filterMap_eq_nil_iff]
    intro extra member
    simp [unknown extra member]
  unfold kept at nothing ⊢
  rw [List.filterMap_append, nothing, List.append_nil]

/-! ## Shapes of parts -/

/-- A number that is presented is read. -/
theorem readWord_presented {bits n : Nat} {json : Value} (presents : PresentsWord bits n json) :
    readWord bits json = .ok n := by
  obtain ⟨fits, rfl⟩ := presents
  simp [readWord, Value.ofNat, fits]

/-- A position that is presented is read. -/
theorem readPosition_presented {position : Position} {json : Value}
    (presents : position.PresentedBy json) : readPosition json = .ok position := by
  -- A position is a list of two numbers, or an object with both under their names.
  cases presents with
  | list row column =>
    simp [readPosition, readWord_presented row, readWord_presented column, Bind.bind, Except.bind,
      pure, Except.pure]
  | @object row column members extras presentsRow presentsColumn perm others =>
    let read (name : String) : Option (Value → Except DecodeError Nat) :=
      if name = "row" ∨ name = "column" then some (readWord 32) else none
    have unknown : ∀ extra ∈ extras, read extra.1 = none := by
      intro extra member
      obtain ⟨noRow, noColumn⟩ := others extra member
      simp [read, noRow, noColumn]
    -- Only the two known members are kept, in the order in which they are listed.
    have kept_eq : kept read (("row", row) :: ("column", column) :: extras) =
        [("row", position.row), ("column", position.column)] := by
      have front := kept_append_of_unknown unknown [("row", row), ("column", column)]
      simp only [List.cons_append, List.nil_append] at front
      rw [front]
      simp [kept, read, readWord_presented presentsRow, readWord_presented presentsColumn,
        Except.toOption]
    -- Both known members are read as words, and the others are not read at all.
    have readable : Readable read (("row", row) :: ("column", column) :: extras) := by
      intro member among readField known
      rcases List.mem_cons.mp among with rfl | among
      · obtain rfl : readWord 32 = readField := by simpa [read] using known
        exact ⟨_, readWord_presented presentsRow⟩
      rcases List.mem_cons.mp among with rfl | among
      · obtain rfl : readWord 32 = readField := by simpa [read] using known
        exact ⟨_, readWord_presented presentsColumn⟩
      · rw [unknown member among] at known
        exact absurd known (by simp)
    -- The members may stand in any order, since each number is looked up by its name.
    obtain ⟨found, collected, lookups⟩ := collect_perm perm readable (by rw [kept_eq]; simp)
    rw [kept_eq] at lookups
    have atRow : found.lookup "row" = some position.row := lookups "row"
    have atColumn : found.lookup "column" = some position.column := lookups "column"
    simp only [readPosition]
    rw [collected]
    simp [Bind.bind, Except.bind, pure, Except.pure, atRow, atColumn]

/-- Whether a shape reads all that presents something of a type. -/
def Shape.ReadsAs {α : Type} (shape : Shape) (presents : α → Value → Prop) (datum : α → Datum) :
    Prop :=
  ∀ a json, presents a json → shape.read json = .ok (datum a)

/-- An id is read. -/
theorem Shape.readsAs_id : Shape.id.ReadsAs (PresentsWord 64) .id := by
  intro id json presents
  simp [Shape.read, readWord_presented presents, Except.map]

/-- A text is read. -/
theorem Shape.readsAs_text : Shape.text.ReadsAs PresentsText .text := by
  rintro text json rfl
  rfl

/-- A path is read like a text. -/
theorem Shape.readsAs_path : Shape.path.ReadsAs PresentsText .text := by
  rintro text json rfl
  rfl

/-- A truth value is read. -/
theorem Shape.readsAs_switch : Shape.switch.ReadsAs PresentsSwitch .switch := by
  rintro value json rfl
  rfl

/-- A position is read. -/
theorem Shape.readsAs_position : Shape.position.ReadsAs Position.PresentedBy .position := by
  intro position json presents
  simp [Shape.read, readPosition_presented presents, Except.map]

/-- A value of any form is read. -/
theorem Shape.readsAs_any : Shape.any.ReadsAs PresentsValue .any := by
  rintro value json rfl
  rfl

/-- What is read of something that need not be there. -/
def Datum.optional {α : Type} (datum : α → Datum) : Option α → Datum
  | none => .absent
  | some a => datum a

/-- Something that need not be there is read, unless null presents it when it is there. -/
theorem Shape.ReadsAs.optional {α : Type} {shape : Shape} {presents : α → Value → Prop}
    {datum : α → Datum} (reads : shape.ReadsAs presents datum) (notNull : ∀ a, ¬ presents a .null) :
    (Shape.optional shape).ReadsAs (PresentsOptional presents) (.optional datum) := by
  intro value json presented
  -- Null is left for the missing value, and any other value is that of the shape.
  cases value with
  | none =>
    obtain rfl : json = .null := presented
    rfl
  | some a =>
    cases json with
    | null => exact absurd presented (notNull a)
    | _ => exact reads a _ presented

/-! ## Fields of a kind -/

/-- A field reads what presents a part, and its default is the datum that the part may be left out for. -/
structure Field.Reads (field : Field) (part : MessagePart) (datum : Datum) : Prop where
  name : field.name = part.name
  reads : ∀ json, part.presents json → field.shape.read json = .ok datum
  default : part.omissible → field.default = some datum

/-- Fields read parts one by one. -/
inductive FieldsRead : List Field → List MessagePart → List Datum → Prop
  | nil : FieldsRead [] [] []
  | cons {field : Field} {part : MessagePart} {datum : Datum} {fields : List Field} {parts : List MessagePart}
      {data : List Datum} : field.Reads part datum → FieldsRead fields parts data →
    FieldsRead (field :: fields) (part :: parts) (datum :: data)

section

variable {α : Type} {shape : Shape} {presents : α → Value → Prop} {datum : α → Datum}

/-- A field without a default reads a part that must be there. -/
theorem Shape.ReadsAs.required (reads : shape.ReadsAs presents datum) (name : String) (a : α) :
    Field.Reads ⟨name, shape, none⟩ ⟨name, presents a, False⟩ (datum a) :=
  ⟨rfl, reads a, False.elim⟩

/-- A field with a default reads a part that may be left out for it. -/
theorem Shape.ReadsAs.defaulted (reads : shape.ReadsAs presents datum) (name : String)
    (a default : α) :
    Field.Reads ⟨name, shape, some (datum default)⟩ ⟨name, presents a, a = default⟩ (datum a) :=
  ⟨rfl, reads a, by rintro rfl; rfl⟩

end

end Decoding

open Decoding

namespace Incoming

/-- The kind of a message. -/
def kind : Incoming → Kind
  | openDocument .. => .openDocument
  | updateDocument .. => .updateDocument
  | closeDocument .. => .closeDocument
  | scopeChanged .. => .scopeChanged
  | activeDocumentChanged .. => .activeDocumentChanged
  | saved .. => .saved
  | setting .. => .setting
  | command .. => .command
  | shutdown => .shutdown

/-- The kind is found by its name. -/
theorem ofTag?_typeTag (message : Incoming) : Kind.ofTag? message.typeTag = some message.kind := by
  cases message <;> rfl

/-- What is read of a message, field by field. -/
def data : Incoming → List Datum
  | openDocument id path displayPath text cursor inScope => [
      .id id, .text path.text, .optional .text displayPath, .text text, .position cursor,
      .switch inScope]
  | updateDocument id text cursor => [.id id, .text text, .optional .position cursor]
  | closeDocument id => [.id id]
  | scopeChanged id inScope => [.id id, .switch inScope]
  | activeDocumentChanged id => [.optional .id id]
  | saved id => [.id id]
  | setting key value => [.text key, .any value]
  | command name => [.text name]
  | shutdown => []

/-- The message is built from what is read of it. -/
theorem build_data (message : Incoming) : build message.kind message.data = some message := by
  cases message with
  | openDocument id path displayPath => cases displayPath <;> rfl
  | updateDocument id text cursor => cases cursor <;> rfl
  | activeDocumentChanged id => cases id <;> rfl
  | _ => rfl

/-- The fields of a kind read the parts of a message of that kind. -/
theorem fieldsRead (message : Incoming) : FieldsRead (fieldsOf message.kind) message.parts message.data := by
  -- Null presents no text, no number and no position.
  have textNotNull : ∀ text, ¬ PresentsText text .null := by simp [PresentsText]
  have wordNotNull : ∀ n, ¬ PresentsWord 64 n .null := by simp [PresentsWord, Value.ofNat]
  have positionNotNull : ∀ position : Position, ¬ position.PresentedBy .null := by
    intro position presented
    cases presented
  have id := Shape.readsAs_id
  have text := Shape.readsAs_text
  have switch := Shape.readsAs_switch
  cases message with
  | openDocument =>
    exact .cons (id.required _ _) <| .cons (Shape.readsAs_path.required _ _) <|
      .cons ((text.optional textNotNull).defaulted _ _ none) <| .cons (text.defaulted _ _ "") <|
      .cons (Shape.readsAs_position.defaulted _ _ ⟨0, 0⟩) <| .cons (switch.defaulted _ _ true) .nil
  | updateDocument =>
    exact .cons (id.required _ _) <| .cons (text.required _ _) <|
      .cons ((Shape.readsAs_position.optional positionNotNull).defaulted _ _ none) .nil
  | closeDocument => exact .cons (id.required _ _) .nil
  | scopeChanged => exact .cons (id.required _ _) <| .cons (switch.required _ _) .nil
  | activeDocumentChanged => exact .cons ((id.optional wordNotNull).defaulted _ _ none) .nil
  | saved => exact .cons (id.required _ _) .nil
  | setting => exact .cons (text.required _ _) <| .cons (Shape.readsAs_any.required _ _) .nil
  | command => exact .cons (text.required _ _) .nil
  | shutdown => exact .nil

end Incoming

/-! ## Objects and lists -/

namespace Decoding

/-- The fields of a kind have names of their own, none of which is that of the tag. -/
theorem names_fieldsOf (kind : Incoming.Kind) :
    ((fieldsOf kind).map (·.name)).Nodup ∧ "type" ∉ (fieldsOf kind).map (·.name) := by
  cases kind <;> simp [fieldsOf]

/-- Fields without items have their defaults. -/
theorem ofItems_leftOut {fields : List Field} {parts : List MessagePart} {data : List Datum}
    (reads : FieldsRead fields parts data) (omissible : ∀ part ∈ parts, part.omissible)
    (owner : String) (count index : Nat) : ofItems owner count index fields [] = .ok data := by
  -- The induction is on the fields, all of which may be left out.
  induction reads generalizing index with
  | nil => rfl
  | cons field _ ih =>
    have default := field.default (omissible _ List.mem_cons_self)
    have later := ih fun part member => omissible part (List.mem_cons_of_mem _ member)
    simp [ofItems, default, later, Except.map]

/-- The items of a list are read in their order. -/
theorem ofItems_listed {parts : List MessagePart} {items : List Value} (listed : MessagePart.Listed parts items)
    {fields : List Field} {data : List Datum} (reads : FieldsRead fields parts data)
    (owner : String) (count index : Nat) : ofItems owner count index fields items = .ok data := by
  -- Items are used up one by one, and the fields that are left over have their defaults.
  induction listed generalizing fields data index with
  | leftOut omissible => exact ofItems_leftOut reads omissible owner count index
  | here presents _ ih =>
    cases reads with
    | cons field others =>
      simp [ofItems, field.reads _ presents, ih others, Bind.bind, Except.bind, pure, Except.pure]

/-- The datum of a field in an object, which is the default if the object has no such member. -/
def settle (found : List (String × Datum)) (field : Field) : Except DecodeError Datum :=
  -- A member that is there hides the default.
  match found.lookup field.name, field.default with
  | some datum, _ => .ok datum
  | none, some datum => .ok datum
  | none, none => .error (missing field.name)

/-- Members have the names of parts, in their order. -/
theorem sublist_of_written {parts : List MessagePart} {written : List (String × Value)}
    (writes : MessagePart.Written parts written) :
    (written.map (·.1)).Sublist (parts.map (·.name)) := by
  induction writes with
  | nil => exact .slnil
  | here _ _ ih => exact ih.cons_cons _
  | leftOut _ _ ih => exact ih.cons _

/-- What is read of members has their names, in their order. -/
theorem sublist_kept {α : Type} (read : String → Option (Value → Except DecodeError α))
    (members : List (String × Value)) :
    ((kept read members).map (·.1)).Sublist (members.map (·.1)) := by
  -- A member is kept with its name, or it is passed over.
  induction members with
  | nil => exact .slnil
  | cons member rest ih =>
    cases read : (read member.1).bind fun readField => (readField member.2).toOption.map (member.1, ·) with
    | none =>
      simp only [kept, List.filterMap_cons, read, List.map_cons]
      exact ih.cons _
    | some entry =>
      have same : entry.1 = member.1 := by
        obtain ⟨_, _, field⟩ := Option.bind_eq_some_iff.mp read
        obtain ⟨_, _, rfl⟩ := Option.map_eq_some_iff.mp field
        rfl
      simp only [kept, List.filterMap_cons, read, List.map_cons, same]
      exact ih.cons_cons _

/-- Fields have the names of the parts that they read. -/
theorem FieldsRead.names {fields : List Field} {parts : List MessagePart} {data : List Datum}
    (reads : FieldsRead fields parts data) : fields.map (·.name) = parts.map (·.name) := by
  induction reads with
  | nil => rfl
  | cons field _ ih => simp [field.name, ih]

/-- A field is found by its name if no other has the same. -/
theorem find?_field {fields : List Field} (distinct : (fields.map (·.name)).Nodup) {field : Field}
    (member : field ∈ fields) : fields.find? (·.name == field.name) = some field := by
  -- The induction is on the fields; the first one has another name unless it is the field.
  induction fields with
  | nil => exact absurd member List.not_mem_nil
  | cons first rest ih =>
    obtain ⟨absent, distinct⟩ := List.nodup_cons.mp distinct
    rcases List.mem_cons.mp member with rfl | behind
    · simp
    · have other : first.name ≠ field.name := fun same =>
        absent (List.mem_map.mpr ⟨field, behind, same.symm⟩)
      rw [List.find?_cons_of_neg (by simpa using other)]
      exact ih distinct behind

section

variable {read : String → Option (Value → Except DecodeError Datum)} {fields : List Field}
  {parts : List MessagePart} {data : List Datum} {written : List (String × Value)}

/-- What presents the parts is read by the fields. -/
theorem readable_written (writes : MessagePart.Written parts written) (reads : FieldsRead fields parts data)
    (known : ∀ field ∈ fields, read field.name = some fun value => field.shape.read value) :
    Readable read written := by
  -- Each part that is written belongs to the field at its place.
  induction writes generalizing fields data with
  | nil => exact fun member among => absurd among List.not_mem_nil
  | here presents _ ih =>
    cases reads with
    | cons field others =>
      intro member among readField same
      have later := ih others fun field member => known field (List.mem_cons_of_mem _ member)
      rcases List.mem_cons.mp among with rfl | behind
      · have here := known _ List.mem_cons_self
        simp only [field.name] at here
        rw [here] at same
        obtain rfl := Option.some.inj same
        exact ⟨_, field.reads _ presents⟩
      · exact later member behind readField same
  | leftOut _ _ ih =>
    cases reads with
    | cons field others => exact ih others fun field member => known field (List.mem_cons_of_mem _ member)

/-- Each field has the datum of its part, whether that is written or left out. -/
theorem mapM_settle (writes : MessagePart.Written parts written) (reads : FieldsRead fields parts data)
    (known : ∀ field ∈ fields, read field.name = some fun value => field.shape.read value)
    (distinct : (fields.map (·.name)).Nodup) {found : List (String × Datum)}
    (lookups : ∀ field ∈ fields, found.lookup field.name = (kept read written).lookup field.name) :
    fields.mapM (settle found) = .ok data := by
  induction writes generalizing fields data with
  | nil =>
    cases reads
    rfl
  | @here part json parts members presents _ ih =>
    cases reads with
    | @cons field _ datum fields _ data reads others =>
      obtain ⟨absent, distinct⟩ := List.nodup_cons.mp distinct
      have entry : kept read ((part.name, json) :: members) = (field.name, datum) :: kept read members := by
        have here := known field List.mem_cons_self
        rw [reads.name] at here
        simp [kept, here, reads.reads json presents, reads.name, Except.toOption]
      rw [entry] at lookups
      -- The member that is written here comes first, so it is the one that is looked up.
      have here : settle found field = .ok datum := by
        have hit := lookups field List.mem_cons_self
        rw [List.lookup_cons_self] at hit
        simp [settle, hit]
      -- The other fields do not find it, since their names are different.
      have later := ih others (fun field member => known field (List.mem_cons_of_mem _ member)) distinct
        fun other member => by
          have apart : other.name ≠ field.name := fun same =>
            absent (List.mem_map.mpr ⟨other, member, same⟩)
          have hit := lookups other (List.mem_cons_of_mem _ member)
          simpa [List.lookup_cons, beq_false_of_ne apart] using hit
      rw [List.mapM_cons, here, later]
      rfl
  -- A part that is left out is read from its default.
  | @leftOut part parts members omissible writes ih =>
    cases reads with
    | @cons field _ datum fields _ data reads others =>
      obtain ⟨absent, distinct⟩ := List.nodup_cons.mp distinct
      have here : settle found field = .ok datum := by
        -- No other part has the name, and so no member that is written.
        have names := (sublist_kept read members).trans (sublist_of_written writes)
        rw [← others.names] at names
        have hit := lookups field List.mem_cons_self
        have miss : (kept read members).lookup field.name = none := by
          rw [List.lookup_eq_none_iff]
          intro entry member
          have among : entry.1 ∈ fields.map (·.name) := names.subset (List.mem_map_of_mem member)
          have apart : field.name ≠ entry.1 := by
            intro same
            rw [← same] at among
            exact absent among
          simpa using apart
        rw [miss] at hit
        simp [settle, hit, reads.default omissible]
      have later := ih others (fun field member => known field (List.mem_cons_of_mem _ member)) distinct
        fun other member => lookups other (List.mem_cons_of_mem _ member)
      rw [List.mapM_cons, here, later]
      rfl

/-- The members of an object are read in any order and between any others. -/
theorem ofMembers_written (writes : MessagePart.Written parts written) (reads : FieldsRead fields parts data)
    (distinct : (fields.map (·.name)).Nodup) {members extras : List (String × Value)}
    (perm : members.Perm (written ++ extras))
    (others : ∀ extra ∈ extras, ∀ part ∈ parts, extra.1 ≠ part.name) :
    ofMembers fields members = .ok data := by
  let read (name : String) : Option (Value → Except DecodeError Datum) :=
    (fields.find? (·.name == name)).map fun field value => field.shape.read value
  -- A field is found under its name, since the names differ.
  have known : ∀ field ∈ fields, read field.name = some fun value => field.shape.read value := by
    intro field member
    simp [read, find?_field distinct member]
  -- An extra member has no name of a part, so that no field would read it.
  have unknown : ∀ extra ∈ extras, read extra.1 = none := by
    intro extra member
    simp only [read, Option.map_eq_none_iff, List.find?_eq_none, beq_iff_eq]
    intro field among same
    have named : field.name ∈ parts.map (·.name) := reads.names ▸ List.mem_map_of_mem among
    obtain ⟨part, isPart, partName⟩ := List.mem_map.mp named
    exact others extra member part isPart (same.symm.trans partName.symm)
  have readable : Readable read (written ++ extras) := by
    intro member among readField isKnown
    rcases List.mem_append.mp among with front | behind
    · exact readable_written writes reads known member front readField isKnown
    · rw [unknown member behind] at isKnown
      exact absurd isKnown (by simp)
  -- The extra members change nothing of what is kept.
  have same : kept read (written ++ extras) = kept read written := kept_append_of_unknown unknown written
  have apart : ((kept read (written ++ extras)).map (·.1)).Nodup := by
    have names := (sublist_kept read written).trans (sublist_of_written writes)
    rw [← reads.names] at names
    rw [same]
    exact distinct.sublist names
  -- Whatever the order is, each field finds its own value.
  obtain ⟨found, collected, lookups⟩ := collect_perm perm readable apart
  have settled := mapM_settle writes reads known distinct
    fun field _ => (lookups field.name).trans (by rw [same])
  show (collect read members []).bind (fun found => fields.mapM (settle found)) = _
  rw [collected]
  exact settled

end

/-- The content of an object that presents a message is that message. -/
theorem message_members {message : Incoming} {members written extras : List (String × Value)}
    (writes : MessagePart.Written message.parts written) (perm : members.Perm (written ++ extras))
    (others : ∀ extra ∈ extras, ∀ part ∈ message.parts, extra.1 ≠ part.name) :
    (Content.members members).message message.kind = .ok message := by
  have read := ofMembers_written writes message.fieldsRead (names_fieldsOf message.kind).1 perm others
  simp [Content.message, read, message.build_data, Bind.bind, Except.bind, pure, Except.pure]

/-- The content of a list that presents a message is that message. -/
theorem message_items {message : Incoming} {items : List Value}
    (listed : MessagePart.Listed message.parts items) :
    (Content.items items).message message.kind = .ok message := by
  have read := ofItems_listed listed message.fieldsRead
  simp [Content.message, read, message.build_data, Bind.bind, Except.bind, pure, Except.pure]

end Decoding

end FormatPipeline
