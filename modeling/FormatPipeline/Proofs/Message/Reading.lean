import FormatPipeline.Proofs.Json.Writing
import FormatPipeline.Proofs.Message.Presentation

/-! Every text of a value that presents a message is decoded as that message. -/

namespace FormatPipeline

open Json (Value IsGap LeadsItem WritesString MembersSpelledBy ItemsSpelledBy Stops)

namespace Decoding

/-! ## The tag -/

/-- The tag is read, wherever it stands. -/
theorem readKind_tag {kind : Incoming.Kind} {tag : String} (known : Incoming.Kind.ofTag? tag = some kind)
    {gap body : List Char} (blank : IsGap gap) (spelled : Value.SpelledBy (.string tag) body)
    (rest : List Char) : readKind (gap ++ (body ++ rest)) = .ok (kind, rest) := by
  -- A tag is a string, and behind its opening quote it is read as one.
  cases spelled with
  | string writes =>
    obtain ⟨inner, rfl, read⟩ := Json.readString_writesString writes rest
    have quote : Json.isGap '"' = false := by decide
    simp [readKind, Json.skipBlanks_gap blank, Json.skipBlanks_cons quote, Json.readScalar, read,
      known, lift, Except.map, Bind.bind, Except.bind, pure, Except.pure]

/-! ## The members of an object -/

section

variable {first : Bool} {name : String} {lead quoted before after body : List Char}

/-- A member that is not the tag is put to those already read. -/
theorem readMembers_other {value : Value} (leads : LeadsItem first lead)
    (writes : WritesString name quoted) (gapBefore : IsGap before) (gapAfter : IsGap after)
    (spelled : value.SpelledBy body) {more : List Char} (stops : Stops more) (other : name ≠ "type")
    (shallow : value.nesting < Json.depthLimit - 1) {fuel : Nat} (enough : 2 * body.length ≤ fuel)
    (kind : Option Incoming.Kind) (read : List (String × Value)) :
    readMembers (fuel + 1) first kind read
        (lead ++ (quoted ++ (before ++ ':' :: (after ++ (body ++ more))))) =
      readMembers fuel false kind ((name, value) :: read) more := by
  -- The name, the colon and the value are read in their order.
  have named := Json.memberName_lead leads writes (before ++ ':' :: (after ++ (body ++ more)))
  have colon := Json.readColon_gap gapBefore (after ++ (body ++ more))
  have here := spelled.readFrom fuel (Json.depthLimit - 1) more stops shallow enough
  rw [← Json.readValue_gap gapAfter] at here
  rw [readMembers]
  simp [named, colon, here, other, lift, Bind.bind, Except.bind]

/-- The tag tells the kind, and is no field. -/
theorem readMembers_tag {kind : Incoming.Kind} {tag : String}
    (known : Incoming.Kind.ofTag? tag = some kind) (leads : LeadsItem first lead)
    (writes : WritesString "type" quoted) (gapBefore : IsGap before) (gapAfter : IsGap after)
    (spelled : Value.SpelledBy (.string tag) body) (more : List Char) (fuel : Nat)
    (read : List (String × Value)) :
    readMembers (fuel + 1) first none read
        (lead ++ (quoted ++ (before ++ ':' :: (after ++ (body ++ more))))) =
      readMembers fuel false (some kind) read more := by
  -- The name is that of the tag, so that its value is read as a kind.
  have named := Json.memberName_lead leads writes (before ++ ':' :: (after ++ (body ++ more)))
  have colon := Json.readColon_gap gapBefore (after ++ (body ++ more))
  have tagged := readKind_tag known gapAfter spelled more
  rw [readMembers]
  simp [named, colon, tagged, lift, Bind.bind, Except.bind]

end

/-- The members behind the tag are read up to the end of the object. -/
theorem readMembers_behind (kind : Incoming.Kind) {members : List (String × Value)} {first : Bool}
    {cs : List Char} (spelled : MembersSpelledBy first members cs)
    (others : ∀ member ∈ members, member.1 ≠ "type")
    (shallow : Value.nestingOfMembers members < Json.depthLimit - 1) {fuel : Nat}
    (enough : 2 * cs.length ≤ fuel) (read : List (String × Value)) (rest : List Char) :
    readMembers fuel first (some kind) read (cs ++ rest) =
      .ok (kind, .members (read.reverse ++ members), rest) := by
  -- The induction is on the members; each of them takes one unit of fuel.
  induction members generalizing first cs fuel read with
  | nil =>
    cases spelled with
    | closeObject gap =>
      rw [List.length_append, List.length_singleton] at enough
      obtain ⟨fuel, rfl⟩ : ∃ less, fuel = less + 1 := ⟨fuel - 1, by omega⟩
      rw [readMembers]
      simp [Json.memberName_close gap, lift, Bind.bind, Except.bind, pure, Except.pure]
  | cons member members ih =>
    cases spelled with
    | @member _ name value _ lead quoted before after body more leads writes gapBefore gapAfter
        spelled follows =>
      simp only [Value.nestingOfMembers] at shallow
      simp only [List.length_append, List.length_cons] at enough
      obtain ⟨fuel, rfl⟩ : ∃ less, fuel = less + 1 := ⟨fuel - 1, by omega⟩
      -- The member takes characters, so that the fuel is enough for both parts.
      have enoughHere : 2 * body.length ≤ fuel := by omega
      have enoughLater : 2 * more.length ≤ fuel := by omega
      have step := readMembers_other leads writes gapBefore gapAfter spelled (follows.stops rest)
        (others _ List.mem_cons_self) (by omega) enoughHere (some kind) read
      have later := ih follows (fun other among => others other (List.mem_cons_of_mem _ among))
        (by omega) enoughLater ((name, value) :: read)
      rw [later] at step
      simpa using step

/-- The members of an object are read, wherever among them the tag stands. -/
theorem readMembers_spelled {kind : Incoming.Kind} {tag : String}
    (known : Incoming.Kind.ofTag? tag = some kind) {front back : List (String × Value)} {first : Bool}
    {cs : List Char} (spelled : MembersSpelledBy first (front ++ ("type", .string tag) :: back) cs)
    (others : ∀ member ∈ front ++ back, member.1 ≠ "type")
    (shallow : Value.nestingOfMembers (front ++ ("type", .string tag) :: back) < Json.depthLimit - 1)
    {fuel : Nat} (enough : 2 * cs.length ≤ fuel) (read : List (String × Value)) (rest : List Char) :
    readMembers fuel first none read (cs ++ rest) =
      .ok (kind, .members (read.reverse ++ (front ++ back)), rest) := by
  -- The induction is on the members in front of the tag, which are put aside.
  induction front generalizing first cs fuel read with
  | nil =>
    cases spelled with
    | @member _ name value _ lead quoted before after body more leads writes gapBefore gapAfter
        spelled follows =>
      simp only [List.nil_append, Value.nestingOfMembers] at shallow
      simp only [List.length_append, List.length_cons] at enough
      obtain ⟨fuel, rfl⟩ : ∃ less, fuel = less + 1 := ⟨fuel - 1, by omega⟩
      -- Behind the tag the kind is known, and only fields are left.
      have enoughLater : 2 * more.length ≤ fuel := by omega
      have step := readMembers_tag known leads writes gapBefore gapAfter spelled (more ++ rest) fuel read
      have later := readMembers_behind kind follows others (by omega) enoughLater read rest
      rw [later] at step
      simpa using step
  | cons member front ih =>
    cases spelled with
    | @member _ name value _ lead quoted before after body more leads writes gapBefore gapAfter
        spelled follows =>
      simp only [List.cons_append, Value.nestingOfMembers] at shallow
      simp only [List.length_append, List.length_cons] at enough
      obtain ⟨fuel, rfl⟩ : ∃ less, fuel = less + 1 := ⟨fuel - 1, by omega⟩
      have enoughHere : 2 * body.length ≤ fuel := by omega
      -- The fuel is enough for the member and for what follows it.
      have enoughLater : 2 * more.length ≤ fuel := by omega
      have step := readMembers_other leads writes gapBefore gapAfter spelled (follows.stops rest)
        (others _ List.mem_cons_self) (by omega) enoughHere none read
      have later := ih follows (fun other among => others other (List.mem_cons_of_mem _ among))
        (by omega) enoughLater ((name, value) :: read)
      rw [later] at step
      simpa using step

/-! ## Messages -/

/-- An object is read as the content that it has without its tag. -/
theorem readMessage_object {kind : Incoming.Kind} {tag : String}
    (known : Incoming.Kind.ofTag? tag = some kind) {front back : List (String × Value)}
    {gap body : List Char} (blank : IsGap gap)
    (spelled : Value.SpelledBy (.object (front ++ ("type", .string tag) :: back)) body)
    (others : ∀ member ∈ front ++ back, member.1 ≠ "type")
    (shallow : (Value.object (front ++ ("type", .string tag) :: back)).nesting < Json.depthLimit)
    (rest : List Char) :
    readMessage (gap ++ (body ++ rest)) = .ok (kind, .members (front ++ back), rest) := by
  cases spelled with
  | @object _ inner spelled =>
    simp only [Value.nesting] at shallow
    -- The fuel is counted from the whole text, which is longer than the object.
    have enough : 2 * inner.length ≤ Json.fuelFor (gap ++ ('\x7b' :: inner ++ rest)) := by
      simp only [Json.fuelFor, List.length_append, List.length_cons]
      omega
    -- Behind the brace the members are read in any order.
    have read := readMembers_spelled known spelled others (by omega) enough [] rest
    have brace : Json.isGap '\x7b' = false := by decide
    have start : Json.skipBlanks (gap ++ ('\x7b' :: inner ++ rest)) = '\x7b' :: (inner ++ rest) := by
      rw [Json.skipBlanks_gap blank, List.cons_append, Json.skipBlanks_cons brace]
    unfold readMessage
    rw [start]
    simpa using read

/-- A list is read as the items behind its tag. -/
theorem readMessage_list {kind : Incoming.Kind} {tag : String}
    (known : Incoming.Kind.ofTag? tag = some kind) {items : List Value} {gap body : List Char}
    (blank : IsGap gap) (spelled : Value.SpelledBy (.array (.string tag :: items)) body)
    (shallow : (Value.array (.string tag :: items)).nesting < Json.depthLimit) (rest : List Char) :
    readMessage (gap ++ (body ++ rest)) = .ok (kind, .items items, rest) := by
  cases spelled with
  | @array _ inner spelled =>
    cases spelled with
    | @item _ _ _ lead quoted more leads tagSpelled follows =>
      simp only [Value.nesting, Value.nestingOfItems] at shallow
      -- The fuel is counted from the whole text, which is longer than the list.
      have enough : 2 * more.length ≤ Json.fuelFor (gap ++ ('[' :: (lead ++ (quoted ++ more)) ++ rest)) := by
        simp only [Json.fuelFor, List.length_append, List.length_cons]
        omega
      have bracket : Json.isGap '[' = false := by decide
      have start : Json.skipBlanks (gap ++ ('[' :: (lead ++ (quoted ++ more)) ++ rest)) =
          '[' :: (lead ++ (quoted ++ (more ++ rest))) := by
        rw [Json.skipBlanks_gap blank, List.cons_append, Json.skipBlanks_cons bracket]
        simp
      -- The first item is the tag, and the others are read behind it.
      have tagged := readKind_tag known Json.isGap_nil tagSpelled (more ++ rest)
      have itemsRead := follows.readFrom _ (Json.depthLimit - 1) [] rest (by omega) enough
      -- The tag begins with a character that neither is blank nor closes the list.
      obtain ⟨c, tail, rfl, busy, opens⟩ := tagSpelled.exists_cons
      have next := Json.nextItem_lead leads busy opens (tail ++ (more ++ rest))
      unfold readMessage
      rw [start]
      rw [List.nil_append] at tagged
      simp only [List.cons_append] at tagged itemsRead ⊢
      simp only [next, tagged, itemsRead, lift, Bind.bind, Except.bind, pure, Except.pure,
        List.reverse_nil, List.nil_append]

end Decoding

namespace Incoming

/-- A text is decoded as the message in it if nothing but a gap follows. -/
theorem decode_of_content {message : Incoming} {text : String} {content : Decoding.Content}
    {gap : List Char} (blank : IsGap gap)
    (read : Decoding.readMessage text.toList = .ok (message.kind, content, gap))
    (holds : content.message message.kind = .ok message) : decode text = .ok message := by
  simp [decode, read, holds, Json.expectEnd_gap blank, Decoding.lift, Bind.bind, Except.bind, pure,
    Except.pure]

/-- A message is decoded from every text of every value that presents it: as an object with its
members in any order, with or without those that are the default, between any other members, and
as a list. -/
theorem decode_presented {message : Incoming} {value : Value} {text : String}
    (presented : message.PresentedBy value) (spelled : value.IsText text.toList)
    (shallow : value.nesting < Json.depthLimit) : decode text = .ok message := by
  generalize chars : text.toList = cs at spelled
  cases spelled with
  | @text before body after gapBefore spelled gapAfter =>
    cases presented with
    | @object members written extras writes perm others =>
      -- The tag stands somewhere among the members.
      have among : ("type", .string message.typeTag) ∈ members := perm.mem_iff.mpr List.mem_cons_self
      obtain ⟨front, back, rfl⟩ := List.append_of_mem among
      have fields : (front ++ back).Perm (written ++ extras) :=
        (List.perm_middle.symm.trans perm).cons_inv
      have untagged : ∀ member ∈ front ++ back, member.1 ≠ "type" := by
        intro member here
        rcases List.mem_append.mp (fields.mem_iff.mp here) with isWritten | isExtra
        · intro same
          have named : member.1 ∈ message.parts.map (·.name) :=
            (Decoding.sublist_of_written writes).subset (List.mem_map_of_mem isWritten)
          rw [same, ← message.fieldsRead.names] at named
          exact (Decoding.names_fieldsOf message.kind).2 named
        · exact (others member isExtra).1
      have read := Decoding.readMessage_object message.ofTag?_typeTag gapBefore spelled untagged shallow
        after
      rw [← chars] at read
      exact decode_of_content gapAfter read
        (Decoding.message_members writes fields fun extra isExtra => (others extra isExtra).2)
    -- A message in a list has no names, so its items are read in the order of the parts.
    | list listed =>
      have read := Decoding.readMessage_list message.ofTag?_typeTag gapBefore spelled shallow after
      rw [← chars] at read
      exact decode_of_content gapAfter read (Decoding.message_items listed)

/-- The tag comes last between other members, or the last parts are left out of a list. -/
theorem decode_sample :
    let message : Incoming := .openDocument (2 ^ 64 - 1) ⟨"/ä.py"⟩ none "" ⟨0, 2⟩ true
    let object : Value := .object [
      ("tags", .array [.null]), ("tags", .null), ("cursor", .array [.ofNat 0, .ofNat 2]),
      ("displayPath", .null), ("path", .string "/ä.py"), ("id", .ofNat (2 ^ 64 - 1)),
      ("type", .string "openDocument")]
    let list : Value := .array [
      .string "openDocument", .ofNat (2 ^ 64 - 1), .string "/ä.py", .null, .string "",
      .object [("column", .ofNat 2), ("size", .ofNat 1), ("row", .ofNat 0)]]
    message.PresentedBy object ∧ message.PresentedBy list ∧
      decode object.compact = .ok message ∧ decode list.compact = .ok message := by
  intro message object list
  have id : PresentsWord 64 (2 ^ 64 - 1) (.ofNat (2 ^ 64 - 1)) := ⟨by decide, rfl⟩
  have row : PresentsWord 32 0 (.ofNat 0) := ⟨by decide, rfl⟩
  have column : PresentsWord 32 2 (.ofNat 2) := ⟨by decide, rfl⟩
  let written : List (String × Value) := [("id", .ofNat (2 ^ 64 - 1)), ("path", .string "/ä.py"),
    ("displayPath", .null), ("cursor", .array [.ofNat 0, .ofNat 2])]
  let extras : List (String × Value) := [("tags", .null), ("tags", .array [.null])]
  have writes : MessagePart.Written message.parts written :=
    .here id <| .here rfl <| .here rfl <| .leftOut rfl <| .here (.list row column) <| .leftOut rfl .nil
  -- The members are those that are due in reverse.
  have perm := List.reverse_perm (("type", Value.string "openDocument") :: (written ++ extras))
  have asObject : message.PresentedBy object := .object writes perm (by simp [message, parts, extras])
  have placePerm : List.Perm [("column", Value.ofNat 2), ("size", .ofNat 1), ("row", .ofNat 0)]
      [("row", .ofNat 0), ("column", .ofNat 2), ("size", .ofNat 1)] :=
    List.perm_append_singleton _ [_, _]
  have place : Position.PresentedBy ⟨0, 2⟩
      (.object [("column", .ofNat 2), ("size", .ofNat 1), ("row", .ofNat 0)]) :=
    .object row column placePerm (by simp)
  have asList : message.PresentedBy list :=
    .list <| .here id <| .here rfl <| .here rfl <| .here rfl <| .here place <| .leftOut (by simp)
  have wholeObject : object.IsWhole := by
    simp [object, Value.IsWhole, Value.AreWhole, Value.AreWholeMembers, Value.ofNat, Json.Number.IsWord]
  have wholeList : list.IsWhole := by
    simp [list, Value.IsWhole, Value.AreWhole, Value.AreWholeMembers, Value.ofNat, Json.Number.IsWord]
  exact ⟨asObject, asList,
    decode_presented asObject (Value.isText_compact wholeObject) (by decide),
    decode_presented asList (Value.isText_compact wholeList) (by decide)⟩

end Incoming

end FormatPipeline
