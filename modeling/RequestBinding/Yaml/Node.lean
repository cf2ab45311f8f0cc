import RequestBinding.NameMap
import RequestBinding.Yaml.Token

/-!
# Nodes

The tree of a document. Aliases stay in it: an alias names an anchor by a number, and the table of
anchors holds the node of each number.
-/

namespace RequestBinding
namespace Yaml

/-- What is said about a node in front of it. -/
structure Properties where
  anchor : Option Nat := none
  tag : Option String := none
deriving DecidableEq, Repr, Inhabited

inductive Node where
  | scalar (properties : Properties) (style : ScalarStyle) (text : String)
  | sequence (properties : Properties) (items : List Node)
  | mapping (properties : Properties) (entries : List (Node × Node))
  | aliasTo (anchor : Nat)
deriving Repr, Inhabited

namespace Node

/-- The node of a value that is left out. -/
def empty (p : Properties) : Node := scalar p .plain ""

/-- How much there is to read: both ends of a collection count. -/
def weight : Node → Nat
  | scalar _ _ _ => 1
  | aliasTo _ => 1
  | sequence _ items => 2 + ofItems items
  | mapping _ entries => 2 + ofEntries entries
where
  ofItems : List Node → Nat
    | [] => 0
    | x :: rest => weight x + ofItems rest
  ofEntries : List (Node × Node) → Nat
    | [] => 0
    | (k, v) :: rest => weight k + weight v + ofEntries rest

/-- The anchored nodes, in the order of their starts. -/
def anchored : Node → List (Nat × Node)
  | n@(scalar p _ _) => own p n
  | aliasTo _ => []
  | n@(sequence p items) => own p n ++ ofItems items
  | n@(mapping p entries) => own p n ++ ofEntries entries
where
  own (p : Properties) (n : Node) : List (Nat × Node) := p.anchor.toList.map fun i => (i, n)
  ofItems : List Node → List (Nat × Node)
    | [] => []
    | x :: rest => anchored x ++ ofItems rest
  ofEntries : List (Node × Node) → List (Nat × Node)
    | [] => []
    | (k, v) :: rest => anchored k ++ anchored v ++ ofEntries rest

end Node

/-! ## From tokens to a node -/

structure NodeReader where
  rest : List Token
  /-- The anchors so far. -/
  anchors : NameMap Nat := []
  /-- What the handles of tags stand for. -/
  handles : NameMap String

/-- A step of reading; none if the tokens make no document. -/
abbrev ReadNode := StateT NodeReader Option

namespace ReadNode

def failed {α : Type} : ReadNode α := fun _ => none

def peek : ReadNode (Option Token) := return (← get).rest.head?

def skip : ReadNode Unit := modify fun r => { r with rest := r.rest.tail }

/-- Whether one of the given tokens comes next. -/
def isNext (ts : List Token) : ReadNode Bool := return (← peek).any ts.contains

/-- Steps over the given token if it comes next. -/
def accept (t : Token) : ReadNode Bool := do
  if (← peek) = some t then
    skip
    return true
  else return false

/-- The number of a new anchor: how many names there were before. -/
def bindAnchor (name : String) : ReadNode Nat := do
  let r ← get
  let number := r.anchors.length
  set { r with anchors := NameMap.insert name number r.anchors }
  return number

def resolveTag (handle suffix : String) : ReadNode String := do
  if handle = "" then return suffix
  let some start := (← get).handles.get? handle | failed
  return start ++ suffix

/-- An anchor and a tag in either order. -/
def properties : ReadNode Properties := do
  match ← peek with
  | some (.anchor name) =>
    skip
    match ← peek with
    | some (.tag handle suffix) =>
      skip
      let tag ← resolveTag handle suffix
      return { anchor := ← bindAnchor name, tag }
    | _ => return { anchor := ← bindAnchor name }
  | some (.tag handle suffix) =>
    skip
    let tag ← resolveTag handle suffix
    match ← peek with
    | some (.anchor name) =>
      skip
      return { anchor := ← bindAnchor name, tag }
    | _ => return { tag }
  | _ => return {}

mutual

/-- A node. Block collections start only where `block` holds, and a sequence at the indentation of its
mapping only where `inMapping` holds. -/
def node (block inMapping : Bool) : Nat → ReadNode Node
  | 0 => failed
  | n + 1 => do
    match ← peek with
    | some (.aliasTo name) =>
      skip
      let some number := (← get).anchors.get? name | failed
      return .aliasTo number
    | _ =>
      let p ← properties
      match ← peek with
      | some (.scalar text style) =>
        skip
        return .scalar p style text
      | some .flowSequenceStart =>
        skip
        return .sequence p (← flowItems true n)
      | some .flowMappingStart =>
        skip
        return .mapping p (← flowEntries true n)
      | t =>
        if inMapping ∧ t = some .blockEntry then return .sequence p (← insetItems n)
        else if block ∧ t = some .blockSequenceStart then
          skip
          return .sequence p (← blockItems n)
        else if block ∧ t = some .blockMappingStart then
          skip
          return .mapping p (← blockEntries n)
        else if p = {} then failed
        else return .empty p

/-- A node, unless one of the given tokens comes next. -/
def nodeUnless (ends : List Token) (block inMapping : Bool) : Nat → ReadNode Node
  | 0 => failed
  | n + 1 => do
    if ← isNext ends then return .empty {}
    else node block inMapping n

/-- The entries of a block sequence and its end. -/
def blockItems : Nat → ReadNode (List Node)
  | 0 => failed
  | n + 1 => do
    if ← accept .blockEntry then
      let item ← nodeUnless [.blockEntry, .blockEnd] true false n
      return item :: (← blockItems n)
    else if ← accept .blockEnd then return []
    else failed

/-- The entries of a sequence that no indentation encloses. -/
def insetItems : Nat → ReadNode (List Node)
  | 0 => failed
  | n + 1 => do
    if ← accept .blockEntry then
      let item ← nodeUnless [.blockEntry, .key, .value, .blockEnd] true false n
      return item :: (← insetItems n)
    else return []

/-- The entries of a block mapping and its end. -/
def blockEntries : Nat → ReadNode (List (Node × Node))
  | 0 => failed
  | n + 1 => do
    if ← accept .key then
      let key ← nodeUnless [.key, .value, .blockEnd] true true n
      let value ← if ← accept .value then nodeUnless [.key, .value, .blockEnd] true true n
        else pure (.empty {})
      return (key, value) :: (← blockEntries n)
    else if ← accept .blockEnd then return []
    else failed

/-- The value after a key in a flow collection that `close` ends. -/
def flowValue (close : Token) : Nat → ReadNode Node
  | 0 => failed
  | n + 1 => do
    if ← accept .value then nodeUnless [.flowEntry, close] false false n
    else return .empty {}

/-- The entries of a flow sequence and its end. An entry that is a key makes a mapping of one entry; if
its key is left out, the token after the mark is stepped over. -/
def flowItems (first : Bool) : Nat → ReadNode (List Node)
  | 0 => failed
  | n + 1 => do
    if ← accept .flowSequenceEnd then return []
    if !first then
      if !(← accept .flowEntry) then failed
    if ← accept .flowSequenceEnd then return []
    let item ← if ← accept .key then do
      let key ← if ← isNext [.value, .flowEntry, .flowSequenceEnd] then do
        skip
        pure (.empty {})
      else node false false n
      let value ← flowValue .flowSequenceEnd n
      pure (.mapping {} [(key, value)])
    else node false false n
    return item :: (← flowItems false n)

/-- The entries of a flow mapping and its end. -/
def flowEntries (first : Bool) : Nat → ReadNode (List (Node × Node))
  | 0 => failed
  | n + 1 => do
    if ← accept .flowMappingEnd then return []
    if !first then
      if !(← accept .flowEntry) then failed
    if ← accept .flowMappingEnd then return []
    let entry ← if ← accept .key then do
      let key ← nodeUnless [.value, .flowEntry, .flowMappingEnd] false false n
      pure (key, ← flowValue .flowMappingEnd n)
    else do
      pure (← node false false n, .empty {})
    return entry :: (← flowEntries false n)

end

/-! ## Documents -/

/-- The directives before a document; a version and a handle are given at most once. -/
def directives : List Token → Bool → NameMap String → Option (List Token × NameMap String)
  | .versionDirective major minor :: rest, versioned, handles =>
    if !versioned ∧ major = 1 ∧ (minor = 1 ∨ minor = 2) then directives rest true handles else none
  | .tagDirective handle uri :: rest, versioned, handles =>
    if handles.contains handle then none
    else directives rest versioned (NameMap.insert handle uri handles)
  | rest, _, handles => some (rest, handles)

def standardHandles : NameMap String := [("!", "!"), ("!!", "tag:yaml.org,2002:")]

/-- The handles of a document: those of its directives before the standard ones. -/
def withStandard (handles : NameMap String) : NameMap String :=
  standardHandles.foldl (fun hs (h, uri) => if hs.contains h then hs else NameMap.insert h uri hs)
    handles

def isDirective : Token → Bool
  | .versionDirective _ _ => true
  | .tagDirective _ _ => true
  | _ => false

/-- The content of a document: a node, or nothing before the next document or the end. -/
def content (size : Nat) : ReadNode Node := do
  match ← peek with
  | none => return .empty {}
  | some t =>
    if isDirective t ∨ t = .documentStart ∨ t = .documentEnd then return .empty {}
    else node true false size

end ReadNode

/-- The node of a stream that holds one document; no node if it holds none at all. -/
def Node.ofTokens? (tokens : List Token) : Option (Option Node) := do
  let size := 4 * tokens.length + 4
  match tokens with
  | [] => return none
  | t :: _ =>
    let (n, r) ← if ReadNode.isDirective t ∨ t = .documentStart then do
      let (rest, handles) ← ReadNode.directives tokens false []
      match rest with
      | .documentStart :: rest =>
        (ReadNode.content size).run { rest, handles := ReadNode.withStandard handles }
      | _ => none
    else (ReadNode.node true false size).run { rest := tokens, handles := ReadNode.standardHandles }
    if r.rest.all (· = .documentEnd) then return some n else none

end Yaml
end RequestBinding
