import DaoForge.Yaml.Node
import DaoForge.Yaml.Token.Lexer

/-!
# DaoForge.Yaml.Node.Grammar

The nodes that tokens make up. A node that is left out is the empty plain scalar.

Each reader gives a part of the document, and the tokens behind it or why there are none. A `Stop`
without a fault of its own says that the tokens came to an end, because the text has a fault there.
-/

namespace DaoForge.Yaml

/-- Why reading stops. -/
abbrev Stop := Option FormFault

/-- A part of a document, and the tokens behind it. -/
abbrev Part (α : Type) := α × Except Stop (List Token)

namespace Part

/-- A node that is not there. -/
def missing (stop : Stop) : Part Node := (.missing, .error stop)

/-- Items of which the next one is not there. -/
def missingItem (stop : Stop) : Part (List Node) := ([.missing], .error stop)

/-- Entries of which the next one is not there. -/
def missingEntry (stop : Stop) : Part (List (Node × Node)) := ([(.missing, .missing)], .error stop)

/-- Replaces the value. -/
def map {α β : Type} (f : α → β) (part : Part α) : Part β := (f part.1, part.2)

/-- A part in front of others. -/
def followedBy {α : Type} (part : Part α) (read : List Token → Part (List α)) : Part (List α) :=
  match part with
  | (value, .error stop) => ([value], .error stop)
  | (value, .ok tokens) => (read tokens).map (value :: ·)

end Part

/-- Reading stops at a token that does not fit. -/
def unfit (token : Token) (problem : Problem) (activity : Activity) (start : Position) : Stop :=
  some ⟨problem, token.start, some (activity, start)⟩

namespace TokenKind

/-- A node of a block mapping is left out before it. -/
def endsEntry : TokenKind → Bool
  | .key | .value | .blockEnd => true
  | _ => false

/-- An item of a block sequence is left out before it. -/
def endsItem : TokenKind → Bool
  | .blockEntry | .blockEnd => true
  | _ => false

/-- A node of a flow sequence is left out before it. -/
def endsFlowItem : TokenKind → Bool
  | .flowEntry | .flowSequenceEnd => true
  | _ => false

/-- A node of a flow mapping is left out before it. -/
def endsFlowEntry : TokenKind → Bool
  | .flowEntry | .flowMappingEnd => true
  | _ => false

/-- The node of a document is left out before it. -/
def endsDocument : TokenKind → Bool
  | .documentStart | .documentEnd | .textEnd => true
  | _ => false

end TokenKind

/-- Where a node may stand. -/
inductive Place where
  | block
  /-- In a block, where a sequence need not be indented. -/
  | underKey
  | flow
  deriving DecidableEq

def Place.activity : Place → Activity
  | .flow => .flowNode
  | _ => .blockNode

mutual

/-- A node. -/
def readNode (place : Place) : Nat → List Token → Part Node
  | 0, _ | _, [] => .missing none
  | fuel + 1, token :: rest =>
    let sequence (items : List Node) : Node := .sequence items token.start
    let mapping (entries : List (Node × Node)) : Node := .mapping entries token.start
    match token.kind with
    | .scalar text isPlain => (.scalar text isPlain token.start, .ok rest)
    | .flowSequenceStart => (readFlowItems token.start fuel rest).map sequence
    | .flowMappingStart => (readFlowEntries token.start fuel rest).map mapping
    | kind =>
      if kind = .blockEntry ∧ place = .underKey then
        (readOpenItems fuel (token :: rest)).map sequence
      else if kind = .blockSequenceStart ∧ place ≠ .flow then
        (readItems token.start fuel rest).map sequence
      else if kind = .blockMappingStart ∧ place ≠ .flow then
        (readEntries token.start fuel rest).map mapping
      else .missing (unfit token .missingNode place.activity token.start)

/-- A node, unless it is left out. Then it counts as standing at `here`, or else before the next
token. -/
def readOptional (place : Place) (ends : TokenKind → Bool) (here : Option Position) :
    Nat → List Token → Part Node
  | 0, _ | _, [] => .missing none
  | fuel + 1, token :: rest =>
    if ends token.kind then (.empty (here.getD token.start), .ok (token :: rest))
    else readNode place fuel (token :: rest)

/-- The items of a block sequence. -/
def readItems (start : Position) : Nat → List Token → Part (List Node)
  | 0, _ | _, [] => .missingItem none
  | fuel + 1, token :: rest =>
    match token.kind with
    | .blockEntry =>
      (readOptional .block TokenKind.endsItem token.finish fuel rest).followedBy (readItems start fuel)
    | .blockEnd => ([], .ok rest)
    | _ => .missingItem (unfit token .missingItemMark .blockSequence start)

/-- The items of a sequence without indentation. -/
def readOpenItems : Nat → List Token → Part (List Node)
  | 0, _ | _, [] => .missingItem none
  | fuel + 1, token :: rest =>
    match token.kind with
    | .blockEntry =>
      let ends (kind : TokenKind) : Bool := kind.endsItem || kind.endsEntry
      (readOptional .block ends token.finish fuel rest).followedBy (readOpenItems fuel)
    | _ => ([], .ok (token :: rest))

/-- The entries of a block mapping. -/
def readEntries (start : Position) : Nat → List Token → Part (List (Node × Node))
  | 0, _ | _, [] => .missingEntry none
  | fuel + 1, token :: rest =>
    match token.kind with
    | .key =>
      match readOptional .underKey TokenKind.endsEntry token.finish fuel rest with
      | (key, .error stop) => ([(key, .missing)], .error stop)
      | (key, .ok tokens) =>
        ((readValue .underKey TokenKind.endsEntry fuel tokens).map (key, ·)).followedBy
          (readEntries start fuel)
    | .blockEnd => ([], .ok rest)
    | _ => .missingEntry (unfit token .missingKey .blockMapping start)

/-- The value behind a key, with its mark. -/
def readValue (place : Place) (ends : TokenKind → Bool) : Nat → List Token → Part Node
  | 0, _ | _, [] => .missing none
  | fuel + 1, token :: rest =>
    match token.kind with
    | .value =>
      readOptional place ends (if place = .flow then none else some token.finish) fuel rest
    | _ => (.empty token.start, .ok (token :: rest))

/-- The items of a flow sequence, behind its bracket or a comma. -/
def readFlowItems (start : Position) : Nat → List Token → Part (List Node)
  | 0, _ | _, [] => .missingItem none
  | fuel + 1, token :: rest =>
    match token.kind with
    | .flowSequenceEnd => ([], .ok rest)
    | .key => (readPair token.start fuel rest).followedBy (readMoreItems start fuel)
    | _ => (readNode .flow fuel (token :: rest)).followedBy (readMoreItems start fuel)

/-- The items of a flow sequence, behind one of them. -/
def readMoreItems (start : Position) : Nat → List Token → Part (List Node)
  | 0, _ | _, [] => .missingItem none
  | fuel + 1, token :: rest =>
    match token.kind with
    | .flowSequenceEnd => ([], .ok rest)
    | .flowEntry => readFlowItems start fuel rest
    | _ => .missingItem (unfit token .missingSequenceCommaOrEnd .flowSequence start)

/-- An item of a flow sequence that is a mapping of one entry. The token before which the key is left
out is skipped. -/
def readPair (start : Position) : Nat → List Token → Part Node
  | 0, _ | _, [] => (.mapping [(.missing, .missing)] start, .error none)
  | fuel + 1, token :: rest =>
    let key : Part Node :=
      if token.kind = .value ∨ token.kind.endsFlowItem then (.empty token.finish, .ok rest)
      else readNode .flow fuel (token :: rest)
    match key with
    | (key, .error stop) => (.mapping [(key, .missing)] start, .error stop)
    | (key, .ok tokens) =>
      match readValue .flow TokenKind.endsFlowItem fuel tokens with
      | (value, .ok []) => (.mapping [(key, value), (.missing, .missing)] start, .error none)
      | (value, after) => (.mapping [(key, value)] start, after)

/-- The entries of a flow mapping, behind its brace or a comma. -/
def readFlowEntries (start : Position) : Nat → List Token → Part (List (Node × Node))
  | 0, _ | _, [] => .missingEntry none
  | fuel + 1, token :: rest =>
    match token.kind with
    | .flowMappingEnd => ([], .ok rest)
    | .key =>
      let ends (kind : TokenKind) : Bool := kind = .value || kind.endsFlowEntry
      match readOptional .flow ends none fuel rest with
      | (key, .error stop) => ([(key, .missing)], .error stop)
      | (key, .ok tokens) =>
        ((readValue .flow TokenKind.endsFlowEntry fuel tokens).map (key, ·)).followedBy
          (readMoreEntries start fuel)
    | _ =>
      match readNode .flow fuel (token :: rest) with
      | (key, .error stop) => ([(key, .missing)], .error stop)
      | (key, .ok []) => ([(key, .missing)], .error none)
      | (key, .ok (next :: rest)) =>
        (readMoreEntries start fuel (next :: rest)).map ((key, .empty next.start) :: ·)

/-- The entries of a flow mapping, behind one of them. -/
def readMoreEntries (start : Position) : Nat → List Token → Part (List (Node × Node))
  | 0, _ | _, [] => .missingEntry none
  | fuel + 1, token :: rest =>
    match token.kind with
    | .flowMappingEnd => ([], .ok rest)
    | .flowEntry => readFlowEntries start fuel rest
    | _ => .missingEntry (unfit token .missingMappingCommaOrEnd .flowMapping start)

end

/-! ## documents -/

/-- The node of the first document. -/
def readRoot (fuel : Nat) : List Token → Part Node
  | [] => .missing none
  | token :: rest =>
    match token.kind with
    | .documentStart => readOptional .block TokenKind.endsDocument none fuel rest
    | _ => readNode .block fuel (token :: rest)

/-- The first document of a text. Further marks of its end may follow the first. -/
def Document.ofTokens (text : TokenText) : Document :=
  if (text.tokens.head?.map Token.kind) = some .textEnd then ⟨none, none, true⟩
  else
    match readRoot (4 * text.tokens.length + 4) text.tokens with
    | (root, .error stop) => ⟨some root, (stop <|> text.fault).map .form, true⟩
    | (root, .ok []) => ⟨some root, text.fault.map .form, true⟩
    | (root, .ok tokens) =>
      let after := tokens.dropWhile fun token => token.kind == .documentEnd
      ⟨some root, none, (after.head?.map Token.kind) == some .textEnd⟩

/-- A character that may stand in a text. -/
def isAllowed (c : Char) : Bool :=
  let n := c.toNat
  n == 9 || n == 10 || n == 13 || (0x20 ≤ n && n ≤ 0x7e) || n == 0x85 || (0xa0 ≤ n && n ≤ 0xfffd) ||
    0x10000 ≤ n

/-- The first document of a text. -/
def Document.ofText (text : String) : Document :=
  let cs := text.toList
  let allowed := cs.takeWhile isAllowed
  if allowed.length < cs.length then
    ⟨some .missing, some (.controlCharacter (String.ofList allowed).utf8ByteSize), true⟩
  else ofTokens (.ofChars cs)

end DaoForge.Yaml
