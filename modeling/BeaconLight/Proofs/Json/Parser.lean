import BeaconLight.Json.Fault
import BeaconLight.Proofs.Json.Text

/-!
# Reading printed JSON back

A value without numbers, nested no deeper than the parser goes, is read back from its text.
The lexer splits the text into the `tokens` of the value, the tokens build its `spelled`
outline, and the value of that outline is the value that was printed.
-/

namespace BeaconLight.Json

mutual

/-- There is no number in the value, and its arrays and objects are nested at most `depth`
deep. -/
def IsPlain (depth : Nat) : Json → Prop
  | .null | .bool _ | .string _ => True
  | .number _ => False
  | .array items =>
    match depth with
    | 0 => False
    | depth + 1 => ArePlain depth items
  | .object members =>
    match depth with
    | 0 => False
    | depth + 1 => MembersArePlain depth members

/-- The items are all plain. -/
def ArePlain (depth : Nat) : List Json → Prop
  | [] => True
  | item :: rest => IsPlain depth item ∧ ArePlain depth rest

/-- The values of the members are all plain. -/
def MembersArePlain (depth : Nat) : List (String × Json) → Prop
  | [] => True
  | (_, value) :: rest => IsPlain depth value ∧ MembersArePlain depth rest

end

theorem arePlain_iff {depth : Nat} {items : List Json} :
  ArePlain depth items ↔ ∀ item ∈ items, IsPlain depth item
  := by
  induction items with
  | nil => simp [ArePlain]
  | cons item rest ih => rw [ArePlain, ih, List.forall_mem_cons]

theorem membersArePlain_iff {depth : Nat} {members : List (String × Json)} :
  MembersArePlain depth members ↔ ∀ member ∈ members, IsPlain depth member.2
  := by
  induction members with
  | nil => simp [MembersArePlain]
  | cons member rest ih => rw [MembersArePlain, ih, List.forall_mem_cons]

/-! ### Tokens -/

mutual

/-- The tokens of the text of a value. -/
def tokens : Json → List Token
  | .null => [.null]
  | .bool value => [.bool value]
  | .number n => [.number n.literal]
  | .string text => [.string (escaped text)]
  | .array items => [.openArray] ++ (itemTokens items ++ [.closeArray])
  | .object members => [.openObject] ++ (memberTokens members ++ [.closeObject])

/-- The tokens of the items of an array, with commas between them. -/
def itemTokens : List Json → List Token
  | [] => []
  | item :: rest => tokens item ++ restItemTokens rest

/-- The tokens of further items, each after a comma. -/
def restItemTokens : List Json → List Token
  | [] => []
  | item :: rest => [.comma] ++ (tokens item ++ restItemTokens rest)

/-- The tokens of the members of an object, with commas between them. -/
def memberTokens : List (String × Json) → List Token
  | [] => []
  | (name, value) :: rest =>
    [.string (escaped name), .colon] ++ (tokens value ++ restMemberTokens rest)

/-- The tokens of further members, each after a comma. -/
def restMemberTokens : List (String × Json) → List Token
  | [] => []
  | (name, value) :: rest =>
    [.comma] ++ ([.string (escaped name), .colon] ++ (tokens value ++ restMemberTokens rest))

end

/-- Between two tokens, the lexer reads the bytes as these tokens and is between two tokens
again. -/
def Lexes (bytes : List UInt8) (tokens : List Token) : Prop :=
  ∀ done, bytes.foldl Lexer.step ⟨.between, done⟩ = ⟨.between, tokens.reverse ++ done⟩

namespace Lexes

theorem nil :
  Lexes [] []
  := fun _ => rfl

theorem append {bytes bytes' : List UInt8} {tokens tokens' : List Token}
    (h : Lexes bytes tokens) (h' : Lexes bytes' tokens') :
  Lexes (bytes ++ bytes') (tokens ++ tokens')
  := by
  intro done
  rw [List.foldl_append, h, h', List.reverse_append, List.append_assoc]

/-- A text between quotes is one token. -/
theorem string (text : String) :
  Lexes (Utf8.encode (stringChars text)) [.string (escaped text)]
  := by
  intro done
  have hopen : [0x22].foldl Lexer.step ⟨.between, done⟩ = ⟨.string [], done⟩ := rfl
  have hbytes : Utf8.encode (stringChars text) = [0x22] ++ (escaped text ++ [0x22]) := by
    rw [stringChars, Utf8.encode_cons, Utf8.encode_append]
    rfl
  rw [hbytes, List.foldl_append, List.foldl_append, hopen, (means_escaped text).foldl_step,
    List.append_nil, List.foldl_cons, List.foldl_nil]
  simp [Lexer.step, Lexer.emit]

theorem name (text : String) :
  Lexes (Utf8.encode (stringChars text) ++ String.utf8EncodeChar ':')
    [.string (escaped text), .colon]
  := (Lexes.string text).append fun _ => rfl

end Lexes

mutual

/-- The text of a plain value is split into its tokens. -/
theorem lexes_chars {depth : Nat} :
  (value : Json) → IsPlain depth value → Lexes (Utf8.encode (chars value)) (tokens value)
  | .null, _ => fun _ => rfl
  | .bool true, _ => fun _ => rfl
  | .bool false, _ => fun _ => rfl
  | .number _, h => h.elim
  | .string text, _ => .string text
  | .array items, h => by
    rw [chars, Utf8.encode_cons, Utf8.encode_append, tokens]
    apply Lexes.append (fun _ => rfl)
    apply Lexes.append _ (fun _ => rfl)
    cases depth with
    | zero => exact h.elim
    | succ depth => exact lexes_itemChars items h
  | .object members, h => by
    rw [chars, Utf8.encode_cons, Utf8.encode_append, tokens]
    apply Lexes.append (fun _ => rfl)
    apply Lexes.append _ (fun _ => rfl)
    cases depth with
    | zero => exact h.elim
    | succ depth => exact lexes_memberChars members h

/-- The text of plain items is split into their tokens. -/
theorem lexes_itemChars {depth : Nat} :
  (items : List Json) → ArePlain depth items →
    Lexes (Utf8.encode (itemChars items)) (itemTokens items)
  | [], _ => .nil
  | item :: rest, h => by
    rw [itemChars, Utf8.encode_append, itemTokens]
    exact .append (lexes_chars item h.1) (lexes_restItemChars rest h.2)

/-- The text of further plain items is split into their tokens. -/
theorem lexes_restItemChars {depth : Nat} :
  (items : List Json) → ArePlain depth items →
    Lexes (Utf8.encode (restItemChars items)) (restItemTokens items)
  | [], _ => .nil
  | item :: rest, h => by
    rw [restItemChars, Utf8.encode_cons, Utf8.encode_append, restItemTokens]
    apply Lexes.append (fun _ => rfl)
    exact .append (lexes_chars item h.1) (lexes_restItemChars rest h.2)

/-- The text of plain members is split into their tokens. -/
theorem lexes_memberChars {depth : Nat} :
  (members : List (String × Json)) → MembersArePlain depth members →
    Lexes (Utf8.encode (memberChars members)) (memberTokens members)
  | [], _ => .nil
  | (name, value) :: rest, h => by
    rw [memberChars, Utf8.encode_append, Utf8.encode_cons, Utf8.encode_append, memberTokens,
      ← List.append_assoc]
    apply Lexes.append (.name name)
    exact .append (lexes_chars value h.1) (lexes_restMemberChars rest h.2)

/-- The text of further plain members is split into their tokens. -/
theorem lexes_restMemberChars {depth : Nat} :
  (members : List (String × Json)) → MembersArePlain depth members →
    Lexes (Utf8.encode (restMemberChars members)) (restMemberTokens members)
  | [], _ => .nil
  | (name, value) :: rest, h => by
    rw [restMemberChars, Utf8.encode_cons, Utf8.encode_append, Utf8.encode_cons,
      Utf8.encode_append, restMemberTokens]
    apply Lexes.append (fun _ => rfl)
    rw [← List.append_assoc]
    apply Lexes.append (.name name)
    exact .append (lexes_chars value h.1) (lexes_restMemberChars rest h.2)

end

/-! ### Outlines -/

mutual

/-- The outline of the text of a value. -/
def spelled : Json → Outline
  | .null => .null
  | .bool value => .bool value
  | .number n => .number n.literal
  | .string text => .string (escaped text)
  | .array items => .array (spelledItems items) true
  | .object members => .object (spelledMembers members) true

/-- The outlines of items. -/
def spelledItems : List Json → List Outline
  | [] => []
  | item :: rest => spelled item :: spelledItems rest

/-- The outlines of members. -/
def spelledMembers : List (String × Json) → List (List UInt8 × Outline)
  | [] => []
  | (name, value) :: rest => (escaped name, spelled value) :: spelledMembers rest

end

/-- The first token of a value does not close the array that it stands in. -/
theorem foldl_step_firstItem (value : Json) (stack : List Frame) :
  (tokens value).foldl Building.step (.open .firstItem (.array [] :: stack))
    = (tokens value).foldl Building.step (.open .value (.array [] :: stack))
  := by
  cases value
  all_goals rfl

/-- A name with the colon behind it takes an object to the value of that name. -/
theorem foldl_step_name {expecting : Expecting}
    (h : expecting = .firstName ∨ expecting = .name) (name : List UInt8)
    (done : List (List UInt8 × Outline)) (stack : List Frame) :
  [Token.string name, .colon].foldl Building.step (.open expecting (.object done [] :: stack))
    = .open .value (.object done name :: stack)
  := by
  rcases h with rfl | rfl
  all_goals rfl

mutual

/-- The tokens of a value build its outline. -/
theorem foldl_step_tokens :
  (value : Json) → (stack : List Frame) →
    (tokens value).foldl Building.step (.open .value stack) = place (spelled value) stack
  | .null, _ | .bool _, _ | .number _, _ | .string _, _ => rfl
  | .array [], stack => rfl
  | .array (item :: rest), stack => by
    rw [tokens, itemTokens, List.foldl_append, List.foldl_append, List.foldl_append]
    have hopen : [Token.openArray].foldl Building.step (.open .value stack)
        = .open .firstItem (.array [] :: stack) := rfl
    rw [hopen, foldl_step_firstItem, foldl_step_tokens item, place,
      foldl_step_restItemTokens rest]
    simp [Building.step, spelled, spelledItems]
  | .object [], stack => rfl
  | .object ((name, value) :: rest), stack => by
    rw [tokens, memberTokens, List.foldl_append, List.foldl_append, List.foldl_append,
      List.foldl_append]
    have hopen : [Token.openObject].foldl Building.step (.open .value stack)
        = .open .firstName (.object [] [] :: stack) := rfl
    rw [hopen, foldl_step_name (.inl rfl), foldl_step_tokens value, place,
      foldl_step_restMemberTokens rest]
    simp [Building.step, spelled, spelledMembers]

/-- The tokens of further items add their outlines to the array. -/
theorem foldl_step_restItemTokens :
  (items : List Json) → (done : List Outline) → (stack : List Frame) →
    (restItemTokens items).foldl Building.step (.open .next (.array done :: stack))
      = .open .next (.array ((spelledItems items).reverse ++ done) :: stack)
  | [], done, stack => rfl
  | item :: rest, done, stack => by
    rw [restItemTokens, List.foldl_append, List.foldl_append]
    have hcomma : [Token.comma].foldl Building.step (.open .next (.array done :: stack))
        = .open .value (.array done :: stack) := rfl
    rw [hcomma, foldl_step_tokens item, place, foldl_step_restItemTokens rest, spelledItems,
      List.reverse_cons, List.append_assoc]
    rfl

/-- The tokens of further members add their outlines to the object. -/
theorem foldl_step_restMemberTokens :
  (members : List (String × Json)) → (done : List (List UInt8 × Outline)) →
    (stack : List Frame) →
    (restMemberTokens members).foldl Building.step (.open .next (.object done [] :: stack))
      = .open .next (.object ((spelledMembers members).reverse ++ done) [] :: stack)
  | [], done, stack => rfl
  | (name, value) :: rest, done, stack => by
    rw [restMemberTokens, List.foldl_append, List.foldl_append, List.foldl_append]
    have hcomma : [Token.comma].foldl Building.step (.open .next (.object done [] :: stack))
        = .open .name (.object done [] :: stack) := rfl
    rw [hcomma, foldl_step_name (.inr rfl), foldl_step_tokens value, place,
      foldl_step_restMemberTokens rest, spelledMembers, List.reverse_cons, List.append_assoc]
    rfl

end

/-- The outline of the text of a plain value, behind which nothing follows. -/
theorem outline_encode {depth : Nat} {value : Json} (h : IsPlain depth value) :
  outline (encode value) = (spelled value, false)
  := by
  have htokens : tokenize (encode value) = tokens value := by
    rw [tokenize, encode, Lexer.initial, lexes_chars value h, Lexer.finish, List.append_nil,
      List.reverse_reverse]
  rw [outline, htokens, foldl_step_tokens]
  rfl

/-! ### Values -/

mutual

/-- The value of the outline of a plain value is that value. -/
theorem value?_spelled {depth : Nat} :
  (value : Json) → IsPlain depth value → (spelled value).value? depth = some value
  | .null, _ => by rw [spelled, Outline.value?]
  | .bool _, _ => by rw [spelled, Outline.value?]
  | .number _, h => h.elim
  | .string text, _ => by
    rw [spelled, Outline.value?, readString_escaped]
    rfl
  | .array items, h => by
    cases depth with
    | zero => exact h.elim
    | succ depth =>
      rw [spelled, Outline.value?, itemValues?_spelledItems items h]
      rfl
  | .object members, h => by
    cases depth with
    | zero => exact h.elim
    | succ depth =>
      rw [spelled, Outline.value?, memberValues?_spelledMembers members h]
      rfl

/-- The values of the outlines of plain items are those items. -/
theorem itemValues?_spelledItems {depth : Nat} :
  (items : List Json) → ArePlain depth items →
    itemValues? depth (spelledItems items) = some items
  | [], _ => by rw [spelledItems, itemValues?]
  | item :: rest, h => by
    rw [spelledItems, itemValues?, value?_spelled item h.1,
      itemValues?_spelledItems rest h.2]
    rfl

/-- The values of the outlines of plain members are those members. -/
theorem memberValues?_spelledMembers {depth : Nat} :
  (members : List (String × Json)) → MembersArePlain depth members →
    memberValues? depth (spelledMembers members) = some members
  | [], _ => by rw [spelledMembers, memberValues?]
  | (name, value) :: rest, h => by
    rw [spelledMembers, memberValues?, readString_escaped, value?_spelled value h.1,
      memberValues?_spelledMembers rest h.2]
    rfl

end

/-- A plain value is read back from its text. -/
theorem parse_encode {value : Json} (h : IsPlain maxDepth value) :
  parse (encode value) = .ok value
  := by
  rw [parse, parse?, outline_encode h]
  dsimp only
  rw [value?_spelled value h]

end BeaconLight.Json
