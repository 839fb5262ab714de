import LiveTemplate.Yaml.Decode

/-!
Outlines of nodes: what a block text without anchors and tags says, apart from where it says it.  An
outline is spelled by tokens, and read from any tokens that spell it.
-/

namespace LiveTemplate.Yaml

/-- What a node says, without its positions. -/
inductive Outline where
  | scalar (text : String) (style : Style)
  | mapping (members : List (Outline × Outline))
  | sequence (items : List Outline)

namespace Outline

mutual

/-- The tokens that spell an outline. -/
def kinds : Outline → List TokenKind
  | .scalar text style => [.scalar text style]
  | .mapping members => .blockMappingStart :: kindsOfMembers members
  | .sequence items => .blockSequenceStart :: kindsOfItems items

/-- The tokens that spell the members of a mapping and its end. -/
def kindsOfMembers : List (Outline × Outline) → List TokenKind
  | [] => [.blockEnd]
  | (key, value) :: rest => .key :: (kinds key ++ .value :: (kinds value ++ kindsOfMembers rest))

/-- The tokens that spell the items of a sequence and its end. -/
def kindsOfItems : List Outline → List TokenKind
  | [] => [.blockEnd]
  | item :: rest => .blockEntry :: (kinds item ++ kindsOfItems rest)

end

/-- Where the first of some tokens begins. -/
def markOf (tokens : List Token) : Mark :=
  (tokens.head?.map Token.start).getD .start

mutual

/-- The node of an outline that is spelled by tokens, and the tokens behind it. -/
def place : Outline → List Token → Node × List Token
  | .scalar text style, tokens => (.scalar (markOf tokens) ⟨text, style, none⟩, tokens.tail)
  | .mapping members, tokens =>
    let (entries, rest) := placeMembers members tokens.tail
    (.mapping (markOf tokens) none entries, rest)
  | .sequence items, tokens =>
    let (nodes, rest) := placeItems items tokens.tail
    (.sequence (markOf tokens) none nodes, rest)

/-- The members of a mapping that are spelled by tokens, and the tokens behind its end. -/
def placeMembers : List (Outline × Outline) → List Token → List (Node × Node) × List Token
  | [], tokens => ([], tokens.tail)
  | (key, value) :: more, tokens =>
    let (k, tokens) := place key tokens.tail
    let (v, tokens) := place value tokens.tail
    let (entries, rest) := placeMembers more tokens
    ((k, v) :: entries, rest)

/-- The items of a sequence that are spelled by tokens, and the tokens behind its end. -/
def placeItems : List Outline → List Token → List Node × List Token
  | [], tokens => ([], tokens.tail)
  | item :: more, tokens =>
    let (node, tokens) := place item tokens.tail
    let (nodes, rest) := placeItems more tokens
    (node :: nodes, rest)

end

/-- An outline begins with a token of its own, which ends nothing around it. -/
theorem kinds_begin (o : Outline) :
    ∃ kind more, o.kinds = kind :: more ∧ endsEntry kind = false ∧ isOutside kind = false := by
  cases o with
  | scalar text style => exact ⟨_, _, rfl, rfl, rfl⟩
  | mapping members => exact ⟨_, _, rfl, rfl, rfl⟩
  | sequence items => exact ⟨_, _, rfl, rfl, rfl⟩

end Outline

/-! Readings that go well. -/

/-- Something is read from the tokens in front of others, and nothing else is changed. -/
def Read.Gives {α : Type} (read : Read α) (tokens : List Token) (a : α) (rest : List Token) : Prop :=
  ∀ failure handles anchors,
    read.run.run ⟨tokens, failure, handles, anchors⟩ = (.ok a, ⟨rest, failure, handles, anchors⟩)

namespace Read.Gives

variable {α β : Type} {a : α} {b : β} {tokens more rest : List Token} {token : Token}

theorem pure (a : α) (tokens : List Token) : Gives (pure a) tokens a tokens :=
  fun _ _ _ => rfl

theorem bind {read : Read α} {next : α → Read β} (h : Gives read tokens a more)
    (goesOn : Gives (next a) more b rest) : Gives (read >>= next) tokens b rest := by
  intro failure handles anchors
  have isRead := h failure handles anchors
  simp only [ExceptT.run_bind, StateT.run_bind, isRead]
  exact goesOn failure handles anchors

theorem peek : Gives Read.peek (token :: rest) token (token :: rest) :=
  fun _ _ _ => rfl

theorem take : Gives Read.take (token :: rest) token rest :=
  fun _ _ _ => rfl

theorem orElse {read : Read α} (broken : Error → α) (h : Gives read tokens a rest) :
    Gives (Read.orElse broken read) tokens a rest := by
  intro failure handles anchors
  have isRead : StateT.run read ⟨tokens, failure, handles, anchors⟩ =
      (.ok a, ⟨rest, failure, handles, anchors⟩) := h failure handles anchors
  simp only [Read.orElse, tryCatch, tryCatchThe, MonadExceptOf.tryCatch, ExceptT.tryCatch, ExceptT.run_mk,
    StateT.run_bind, isRead]
  rfl

end Read.Gives

open Read

variable {tokens rest : List Token}

theorem endsMember_of_endsEntry {kind : TokenKind} (h : endsEntry kind = false) :
    endsMember kind = false := by
  cases kind <;> first | rfl | contradiction

theorem readNode_scalar (fuel : Nat) (inBlock mayAlign : Bool) (text : String) (style : Style)
    (start stop : Mark) :
    Gives (readNode (fuel + 2) inBlock mayAlign) (⟨.scalar text style, start, stop⟩ :: rest)
      (.scalar start ⟨text, style, none⟩) rest :=
  fun _ _ _ => rfl

/-- A block collection without properties is read from its content. -/
theorem readNode_block {fuel : Nat} {mayAlign : Bool} {kind : TokenKind} {start stop : Mark} {node : Node}
    (isKind : kind = .blockMappingStart ∨ kind = .blockSequenceStart)
    (h : Gives (readContent fuel ⟨start, none, none⟩ true mayAlign) (⟨kind, start, stop⟩ :: tokens) node
      rest) :
    Gives (readNode (fuel + 1) true mayAlign) (⟨kind, start, stop⟩ :: tokens) node rest := by
  have noProperties : Gives Properties.read (⟨kind, start, stop⟩ :: tokens) ⟨start, none, none⟩
      (⟨kind, start, stop⟩ :: tokens) := by
    obtain rfl | rfl := isKind <;> exact fun _ _ _ => rfl
  unfold readNode
  apply Gives.bind Gives.peek
  obtain rfl | rfl := isKind <;> exact Gives.bind noProperties h

theorem readNode_mapping {fuel : Nat} {entries : List (Node × Node)} (mayAlign : Bool) (start stop : Mark)
    (h : Gives (readBlockMembers fuel) tokens entries rest) :
    Gives (readNode (fuel + 2) true mayAlign) (⟨.blockMappingStart, start, stop⟩ :: tokens)
      (.mapping start none entries) rest := by
  apply readNode_block (.inl rfl)
  unfold readContent
  apply Gives.bind Gives.peek
  apply Gives.bind Gives.take
  apply Gives.bind h
  exact Gives.pure _ _

theorem readNode_sequence {fuel : Nat} {items : List Node} (mayAlign : Bool) (start stop : Mark)
    (h : Gives (readBlockItems fuel) tokens items rest) :
    Gives (readNode (fuel + 2) true mayAlign) (⟨.blockSequenceStart, start, stop⟩ :: tokens)
      (.sequence start none items) rest := by
  apply readNode_block (.inr rfl)
  unfold readContent
  apply Gives.bind Gives.peek
  apply Gives.bind Gives.take
  apply Gives.bind h
  exact Gives.pure _ _

theorem readBlockMembers_done (fuel : Nat) (start stop : Mark) :
    Gives (readBlockMembers (fuel + 1)) (⟨.blockEnd, start, stop⟩ :: rest) [] rest := by
  unfold readBlockMembers
  apply Gives.orElse
  apply Gives.bind Gives.peek
  apply Gives.bind Gives.take
  exact Gives.pure _ _

theorem readBlockMembers_member {fuel : Nat} {key value : Node} {entries : List (Node × Node)}
    {behind more : List Token} (start stop start' stop' : Mark)
    (begins : ∃ token more, tokens = token :: more ∧ endsEntry token.kind = false)
    (valueBegins : ∃ token more, behind = token :: more ∧ endsEntry token.kind = false)
    (givesKey : Gives (readNode fuel true true) tokens key (⟨.value, start', stop'⟩ :: behind))
    (givesValue : Gives (readNode fuel true true) behind value more)
    (givesMore : Gives (readBlockMembers fuel) more entries rest) :
    Gives (readBlockMembers (fuel + 1)) (⟨.key, start, stop⟩ :: tokens) ((key, value) :: entries) rest := by
  obtain ⟨token, tokens, rfl, staysIn⟩ := begins
  obtain ⟨token', behind, rfl, valueGoesOn⟩ := valueBegins
  unfold readBlockMembers
  apply Gives.orElse
  apply Gives.bind Gives.peek
  apply Gives.bind Gives.take
  apply Gives.bind (a := key)
  · apply Gives.orElse
    apply Gives.bind Gives.peek
    rw [endsMember_of_endsEntry staysIn]
    exact givesKey
  apply Gives.bind (a := value)
  · apply Gives.orElse
    apply Gives.bind Gives.peek
    apply Gives.bind Gives.take
    apply Gives.bind Gives.peek
    rw [endsMember_of_endsEntry valueGoesOn]
    exact givesValue
  apply Gives.bind givesMore
  exact Gives.pure _ _

theorem readBlockItems_done (fuel : Nat) (start stop : Mark) :
    Gives (readBlockItems (fuel + 1)) (⟨.blockEnd, start, stop⟩ :: rest) [] rest := by
  unfold readBlockItems
  apply Gives.orElse
  apply Gives.bind Gives.peek
  apply Gives.bind Gives.take
  exact Gives.pure _ _

theorem readBlockItems_item {fuel : Nat} {node : Node} {items : List Node} {more : List Token}
    (start stop : Mark)
    (begins : ∃ token more, tokens = token :: more ∧ endsEntry token.kind = false)
    (givesItem : Gives (readNode fuel true false) tokens node more)
    (givesMore : Gives (readBlockItems fuel) more items rest) :
    Gives (readBlockItems (fuel + 1)) (⟨.blockEntry, start, stop⟩ :: tokens) (node :: items) rest := by
  obtain ⟨token, tokens, rfl, staysIn⟩ := begins
  unfold readBlockItems
  apply Gives.orElse
  apply Gives.bind Gives.peek
  apply Gives.bind Gives.take
  apply Gives.bind (a := node)
  · apply Gives.orElse
    apply Gives.bind Gives.peek
    split
    · simp_all [endsEntry]
    · simp_all [endsEntry]
    · exact givesItem
  apply Gives.bind givesMore
  exact Gives.pure _ _

/-- The first of some tokens of given kinds. -/
theorem tokens_of_cons {kind : TokenKind} {kinds : List TokenKind}
    (h : tokens.map Token.kind = kind :: kinds) :
    ∃ start stop more, tokens = ⟨kind, start, stop⟩ :: more ∧ more.map Token.kind = kinds := by
  obtain ⟨⟨_, start, stop⟩, more, rfl, rfl, moreKinds⟩ := List.map_eq_cons_iff.1 h
  exact ⟨start, stop, more, rfl, moreKinds⟩

/-- The first of the tokens that spell an outline. -/
theorem Outline.tokens_begin {o : Outline} {kinds : List TokenKind}
    (h : tokens.map Token.kind = o.kinds ++ kinds) :
    ∃ token more, tokens = token :: more ∧ endsEntry token.kind = false := by
  obtain ⟨kind, more, same, staysIn, -⟩ := o.kinds_begin
  rw [same, List.cons_append] at h
  obtain ⟨start, stop, tokens, rfl, -⟩ := tokens_of_cons h
  exact ⟨_, tokens, rfl, staysIn⟩

open Outline

mutual

/-- An outline is read from the tokens that spell it.  Every token takes fuel for the node and for its
content. -/
theorem readNode_place (fuel : Nat) (mayAlign : Bool) (tokens : List Token) (behind : List TokenKind) :
    (o : Outline) → tokens.map Token.kind = o.kinds ++ behind → 2 * tokens.length ≤ fuel →
      Gives (readNode fuel true mayAlign) tokens (o.place tokens).1 (o.place tokens).2 ∧
        (o.place tokens).2.map Token.kind = behind ∧ (o.place tokens).2.length < tokens.length
  | .scalar text style, h, enough => by
      obtain ⟨start, stop, rest, rfl, restKinds⟩ := tokens_of_cons h
      rw [List.length_cons] at enough
      obtain ⟨fuel, rfl⟩ := Nat.exists_eq_add_of_le' (show 2 ≤ fuel by omega)
      exact ⟨readNode_scalar fuel true mayAlign text style start stop, restKinds, Nat.lt_succ_self _⟩
  | .mapping members, h, enough => by
      obtain ⟨start, stop, rest, rfl, restKinds⟩ := tokens_of_cons h
      rw [List.length_cons] at enough
      obtain ⟨fuel, rfl⟩ := Nat.exists_eq_add_of_le' (show 2 ≤ fuel by omega)
      obtain ⟨isRead, givesBehind, less⟩ :=
        readBlockMembers_place fuel rest behind members restKinds (by omega)
      exact ⟨readNode_mapping mayAlign start stop isRead, givesBehind, Nat.lt_succ_of_lt less⟩
  | .sequence items, h, enough => by
      obtain ⟨start, stop, rest, rfl, restKinds⟩ := tokens_of_cons h
      rw [List.length_cons] at enough
      obtain ⟨fuel, rfl⟩ := Nat.exists_eq_add_of_le' (show 2 ≤ fuel by omega)
      obtain ⟨isRead, givesBehind, less⟩ := readBlockItems_place fuel rest behind items restKinds (by omega)
      exact ⟨readNode_sequence mayAlign start stop isRead, givesBehind, Nat.lt_succ_of_lt less⟩

/-- The members of a mapping are read from the tokens that spell them. -/
theorem readBlockMembers_place (fuel : Nat) (tokens : List Token) (behind : List TokenKind) :
    (members : List (Outline × Outline)) → tokens.map Token.kind = kindsOfMembers members ++ behind →
      2 * tokens.length ≤ fuel →
      Gives (readBlockMembers fuel) tokens (placeMembers members tokens).1
          (placeMembers members tokens).2 ∧
        (placeMembers members tokens).2.map Token.kind = behind ∧
        (placeMembers members tokens).2.length < tokens.length
  | [], h, enough => by
      obtain ⟨start, stop, rest, rfl, restKinds⟩ := tokens_of_cons h
      rw [List.length_cons] at enough
      obtain ⟨fuel, rfl⟩ := Nat.exists_eq_add_of_le' (show 1 ≤ fuel by omega)
      exact ⟨readBlockMembers_done fuel start stop, restKinds, Nat.lt_succ_self _⟩
  | (key, value) :: members, h, enough => by
      simp only [kindsOfMembers, List.cons_append, List.append_assoc] at h
      obtain ⟨start, stop, rest, rfl, restKinds⟩ := tokens_of_cons h
      rw [List.length_cons] at enough
      obtain ⟨fuel, rfl⟩ := Nat.exists_eq_add_of_le' (show 1 ≤ fuel by omega)
      obtain ⟨givesKey, signKinds, less⟩ := readNode_place fuel true rest _ key restKinds (by omega)
      obtain ⟨start', stop', inner, isInner, innerKinds⟩ := tokens_of_cons signKinds
      rw [isInner] at givesKey less
      simp only [List.length_cons] at less
      obtain ⟨givesValue, moreKinds, lessAgain⟩ := readNode_place fuel true inner _ value innerKinds (by omega)
      obtain ⟨givesMore, givesBehind, lessLast⟩ :=
        readBlockMembers_place fuel (value.place inner).2 behind members moreKinds (by omega)
      have place : placeMembers ((key, value) :: members) (⟨.key, start, stop⟩ :: rest) =
          (((key.place rest).1, (value.place inner).1) :: (placeMembers members (value.place inner).2).1,
            (placeMembers members (value.place inner).2).2) := by
        simp [placeMembers, isInner]
      rw [place]
      exact ⟨readBlockMembers_member start stop start' stop' (tokens_begin restKinds) (tokens_begin innerKinds)
        givesKey givesValue givesMore, givesBehind, by simp only [List.length_cons]; omega⟩

/-- The items of a sequence are read from the tokens that spell them. -/
theorem readBlockItems_place (fuel : Nat) (tokens : List Token) (behind : List TokenKind) :
    (items : List Outline) → tokens.map Token.kind = kindsOfItems items ++ behind →
      2 * tokens.length ≤ fuel →
      Gives (readBlockItems fuel) tokens (placeItems items tokens).1 (placeItems items tokens).2 ∧
        (placeItems items tokens).2.map Token.kind = behind ∧
        (placeItems items tokens).2.length < tokens.length
  | [], h, enough => by
      obtain ⟨start, stop, rest, rfl, restKinds⟩ := tokens_of_cons h
      rw [List.length_cons] at enough
      obtain ⟨fuel, rfl⟩ := Nat.exists_eq_add_of_le' (show 1 ≤ fuel by omega)
      exact ⟨readBlockItems_done fuel start stop, restKinds, Nat.lt_succ_self _⟩
  | item :: items, h, enough => by
      simp only [kindsOfItems, List.cons_append, List.append_assoc] at h
      obtain ⟨start, stop, rest, rfl, restKinds⟩ := tokens_of_cons h
      rw [List.length_cons] at enough
      obtain ⟨fuel, rfl⟩ := Nat.exists_eq_add_of_le' (show 1 ≤ fuel by omega)
      obtain ⟨givesItem, moreKinds, less⟩ := readNode_place fuel false rest _ item restKinds (by omega)
      obtain ⟨givesMore, givesBehind, lessAgain⟩ :=
        readBlockItems_place fuel (item.place rest).2 behind items moreKinds (by omega)
      have place : placeItems (item :: items) (⟨.blockEntry, start, stop⟩ :: rest) =
          ((item.place rest).1 :: (placeItems items (item.place rest).2).1,
            (placeItems items (item.place rest).2).2) := by
        simp [placeItems]
      rw [place]
      exact ⟨readBlockItems_item start stop (tokens_begin restKinds) givesItem givesMore, givesBehind,
        by simp only [List.length_cons]; omega⟩

end

/-! Documents. -/

/-- The only document of a text whose tokens spell an outline. -/
theorem firstDocument_place {text : String} {tokens : List Token} {o : Outline}
    (isTokens : tokensOf text = ⟨tokens, none⟩)
    (isKinds : tokens.map Token.kind = o.kinds ++ [.textEnd]) :
    firstDocument text = ⟨(o.place tokens).1, .empty, none, true⟩ := by
  obtain ⟨isRead, endKinds, -⟩ :=
    readNode_place (4 * tokens.length + 4) false tokens _ o isKinds (by omega)
  obtain ⟨start, stop, rest, isRest, nothing⟩ := tokens_of_cons endKinds
  obtain rfl : rest = [] := List.map_eq_nil_iff.1 nothing
  rw [isRest] at isRead
  obtain ⟨kind, more, kindsBegin, -, staysInside⟩ := o.kinds_begin
  rw [kindsBegin, List.cons_append] at isKinds
  obtain ⟨start', stop', tokens', rfl, -⟩ := tokens_of_cons isKinds
  have isRoot : (readRoot (4 * (⟨kind, start', stop'⟩ :: tokens' : List Token).length + 4)).run.run
      ⟨⟨kind, start', stop'⟩ :: tokens', none, [], .empty⟩ =
      (.ok (o.place (⟨kind, start', stop'⟩ :: tokens')).1,
        ⟨[⟨.textEnd, start, stop⟩], none, standardHandles, .empty⟩) := by
    -- Only what stands outside the content of a document would be read in another way.
    cases kind <;> first | contradiction | exact isRead none standardHandles .empty
  simp only [firstDocument, isTokens, isRoot]
  rfl

/-- Data is read from such a text as it is read from the node of the outline. -/
theorem decode_place {α : Type} {text : String} {tokens : List Token} {o : Outline} (read : Decoder α)
    (isTokens : tokensOf text = ⟨tokens, none⟩)
    (isKinds : tokens.map Token.kind = o.kinds ++ [.textEnd]) :
    decode read text =
      ((read ⟨.empty, [], maxDepth⟩ (o.place tokens).1).run
        (aliasRate * (o.place tokens).1.weight)).map Prod.fst := by
  rw [decode, firstDocument_place isTokens isKinds]
  simp only [bind, Except.bind]
  cases (read ⟨.empty, [], maxDepth⟩ (o.place tokens).1).run (aliasRate * (o.place tokens).1.weight) with
  | error => rfl
  | ok => rfl

end LiveTemplate.Yaml
