import ResultCache.Yaml.Token

/-!
Contract: YAML documents.

Owns:
- `Node`, the scalars, sequences and mappings of a document, with aliases as the
  numbers of the nodes that they stand for;
- `Document`, its root, if it has any content, and the nodes that were given names;
- the one document of a text: texts of several documents are refused.

An alias may stand inside the node that it names. Nodes are therefore looked up
one step at a time and never put in the place of their aliases.
-/

namespace ResultCache

namespace Yaml

/-- A node of a document. -/
inductive Node where
  | scalar (style : Style) (tag : Option String) (text : String)
  | sequence (items : List Node)
  | mapping (entries : List (Node × Node))
  /-- What stands for the node of a number. -/
  | alias (number : Nat)
  deriving Repr

/-- A document. -/
structure Document where
  /-- The content; a text of nothing but blanks and comments has none. -/
  root : Option Node
  /-- The nodes that were given names, by their numbers. -/
  named : List (Nat × Node)

/-- The node that a node stands for: itself, unless it is an alias. -/
def Document.resolve (document : Document) : Node → Option Node
  | .alias number =>
    (document.named.find? fun entry => entry.1 = number).map Prod.snd
  | node => some node

namespace Node

def blank (tag : Option String) : Node := .scalar .plain tag ""

/-- A reading under way. -/
structure Reading where
  tokens : List Token
  /-- What tag handles stand for. -/
  handles : List (String × String)
  /-- The numbers of names, the latest first. -/
  numbers : List (String × Nat)
  /-- The named nodes that are complete. -/
  named : List (Nat × Node)

namespace Reading

def next (reading : Reading) : Option Token := reading.tokens.head?

def skip (reading : Reading) : Reading := { reading with tokens := reading.tokens.tail }

def isAt (reading : Reading) (tokens : List Token) : Bool :=
  reading.next.any fun token => tokens.contains token

/-- The reading with a name given to the node that comes next, and its number. -/
def name (reading : Reading) (anchor : String) : Nat × Reading :=
  let number := reading.numbers.length
  (number, { reading with numbers := (anchor, number) :: reading.numbers })

def complete (reading : Reading) (number : Option Nat) (node : Node) : Reading :=
  match number with
  | none => reading
  | some number => { reading with named := (number, node) :: reading.named }

/-- The tag of a handle and an ending; an unknown handle is refused. -/
def tag? (reading : Reading) (handle ending : String) : Option String :=
  if handle = "" then some ending
  else
    (reading.handles.find? fun entry => entry.1 = handle).map fun entry => entry.2 ++ ending

end Reading

def standardHandles : List (String × String) :=
  [("!", "!"), ("!!", "tag:yaml.org,2002:")]

/-- What stands in front of a node: the number of its name, and its tag. -/
structure Properties where
  number : Option Nat
  tag : Option String

/-- The properties in front of a node, in either order and each once. -/
def takeProperties? (reading : Reading) : Option (Properties × Reading) :=
  match reading.next with
  | some (.anchor anchor) =>
    let (number, reading) := reading.skip.name anchor
    match reading.next with
    | some (.tag handle ending) =>
      (reading.tag? handle ending).map fun tag => (⟨some number, some tag⟩, reading.skip)
    | _ => some (⟨some number, none⟩, reading)
  | some (.tag handle ending) =>
    match reading.tag? handle ending with
    | none => none
    | some tag =>
      let reading := reading.skip
      match reading.next with
      | some (.anchor anchor) =>
        let (number, reading) := reading.skip.name anchor
        some (⟨some number, some tag⟩, reading)
      | _ => some (⟨none, some tag⟩, reading)
  | _ => some (⟨none, none⟩, reading)

/-- Where a node stands: which collections may start there. -/
inductive Place where
  | flow
  | block
  /-- A block where a sequence needs no indentation of its own. -/
  | entry
  deriving DecidableEq, Repr

mutual

/-- The next node. The fuel bounds the nodes that are open at once and their items. -/
def take? (fuel : Nat) (place : Place) (reading : Reading) : Option (Node × Reading) :=
  match fuel with
  | 0 => none
  | fuel + 1 =>
    match reading.next with
    | some (.alias name) =>
      (reading.numbers.find? fun entry => entry.1 = name).map fun entry =>
        (.alias entry.2, reading.skip)
    | _ => do
      let (properties, reading) ← takeProperties? reading
      let (node, reading) ← takeContent? fuel place properties reading
      return (node, reading.complete properties.number node)

def takeContent? (fuel : Nat) (place : Place) (properties : Properties) (reading : Reading) :
    Option (Node × Reading) :=
  match fuel with
  | 0 => none
  | fuel + 1 =>
    match reading.next, place with
    | some (.scalar style text), _ => some (.scalar style properties.tag text, reading.skip)
    | some .flowSequenceStart, _ => takeFlowItems? fuel true [] reading.skip
    | some .flowMappingStart, _ => takeFlowEntries? fuel true [] reading.skip
    | some .blockEntry, .entry => takeLooseItems? fuel [] reading
    | some .blockSequenceStart, .block => takeItems? fuel [] reading.skip
    | some .blockSequenceStart, .entry => takeItems? fuel [] reading.skip
    | some .blockMappingStart, .block => takeEntries? fuel [] reading.skip
    | some .blockMappingStart, .entry => takeEntries? fuel [] reading.skip
    | _, _ =>
      if properties.number.isSome || properties.tag.isSome then
        some (blank properties.tag, reading)
      else none

/-- A node, or nothing in front of some tokens. -/
def takeUnless? (fuel : Nat) (place : Place) (stops : List Token) (reading : Reading) :
    Option (Node × Reading) :=
  match fuel with
  | 0 => none
  | fuel + 1 =>
    if reading.isAt stops then some (blank none, reading) else take? fuel place reading

/-- The items of a block sequence, up to the end of the block. -/
def takeItems? (fuel : Nat) (read : List Node) (reading : Reading) : Option (Node × Reading) :=
  match fuel with
  | 0 => none
  | fuel + 1 =>
    match reading.next with
    | some .blockEntry => do
      let (item, reading) ← takeUnless? fuel .block [.blockEntry, .blockEnd] reading.skip
      takeItems? fuel (item :: read) reading
    | some .blockEnd => some (.sequence read.reverse, reading.skip)
    | _ => none

/-- The items of a block sequence that has no indentation of its own. -/
def takeLooseItems? (fuel : Nat) (read : List Node) (reading : Reading) :
    Option (Node × Reading) :=
  match fuel with
  | 0 => none
  | fuel + 1 =>
    match reading.next with
    | some .blockEntry => do
      let (item, reading) ←
        takeUnless? fuel .block [.blockEntry, .key, .value, .blockEnd] reading.skip
      takeLooseItems? fuel (item :: read) reading
    | _ => some (.sequence read.reverse, reading)

/-- The entries of a block mapping, up to the end of the block. -/
def takeEntries? (fuel : Nat) (read : List (Node × Node)) (reading : Reading) :
    Option (Node × Reading) :=
  match fuel with
  | 0 => none
  | fuel + 1 =>
    match reading.next with
    | some .key => do
      let (key, reading) ← takeUnless? fuel .entry [.key, .value, .blockEnd] reading.skip
      let (value, reading) ← takeValue? fuel .entry [.key, .value, .blockEnd] reading
      takeEntries? fuel ((key, value) :: read) reading
    | some .blockEnd => some (.mapping read.reverse, reading.skip)
    | _ => none

/-- The value behind a key: none is written when no colon follows. -/
def takeValue? (fuel : Nat) (place : Place) (stops : List Token) (reading : Reading) :
    Option (Node × Reading) :=
  match fuel with
  | 0 => none
  | fuel + 1 =>
    match reading.next with
    | some .value => takeUnless? fuel place stops reading.skip
    | _ => some (blank none, reading)

/-- The items of a flow sequence. A pair of key and value is an item of its own. -/
def takeFlowItems? (fuel : Nat) (first : Bool) (read : List Node) (reading : Reading) :
    Option (Node × Reading) :=
  match fuel with
  | 0 => none
  | fuel + 1 =>
    match reading.next with
    | some .flowSequenceEnd => some (.sequence read.reverse, reading.skip)
    | next =>
      if !first && next ≠ some .flowEntry then none
      else
        let reading := if first then reading else reading.skip
        match reading.next with
        | some .flowSequenceEnd => some (.sequence read.reverse, reading.skip)
        | some .key => do
          let stops := [.flowEntry, .flowSequenceEnd]
          let (key, reading) ← takeUnless? fuel .flow (.value :: stops) reading.skip
          let (value, reading) ← takeValue? fuel .flow stops reading
          takeFlowItems? fuel false (.mapping [(key, value)] :: read) reading
        | _ => do
          let (item, reading) ← take? fuel .flow reading
          takeFlowItems? fuel false (item :: read) reading

def takeFlowEntries? (fuel : Nat) (first : Bool) (read : List (Node × Node))
    (reading : Reading) : Option (Node × Reading) :=
  match fuel with
  | 0 => none
  | fuel + 1 =>
    match reading.next with
    | some .flowMappingEnd => some (.mapping read.reverse, reading.skip)
    | next =>
      if !first && next ≠ some .flowEntry then none
      else
        let reading := if first then reading else reading.skip
        let stops := [.flowEntry, .flowMappingEnd]
        match reading.next with
        | some .flowMappingEnd => some (.mapping read.reverse, reading.skip)
        | some .key => do
          let (key, reading) ← takeUnless? fuel .flow (.value :: stops) reading.skip
          let (value, reading) ← takeValue? fuel .flow stops reading
          takeFlowEntries? fuel false ((key, value) :: read) reading
        | _ => do
          let (key, reading) ← take? fuel .flow reading
          takeFlowEntries? fuel false ((key, blank none) :: read) reading

end

/-! ### Documents -/

/-- The directives in front of a document: at most one version, of the first major
version, and handles that differ. -/
def takeDirectives? (versioned : Bool) (given : List (String × String)) :
    List Token → Option (List (String × String) × List Token)
  | .version major minor :: rest =>
    if versioned || major ≠ 1 || (minor ≠ 1 && minor ≠ 2) then none
    else takeDirectives? true given rest
  | .tagDirective handle base :: rest =>
    if given.any fun entry => entry.1 = handle then none
    else takeDirectives? versioned ((handle, base) :: given) rest
  | tokens => some (given, tokens)

def isDirective : Token → Bool
  | .version _ _ | .tagDirective _ _ => true
  | _ => false

def document? (tokens : List Token) : Option Document := do
  let (given, behind) ← takeDirectives? false [] tokens
  match behind with
  | [] => if tokens.any isDirective then none else return ⟨none, []⟩
  | first :: rest =>
    let explicit := first = .documentStart
    if !explicit && tokens.any isDirective then none
    let start : Reading :=
      ⟨if explicit then rest else behind, given ++ standardHandles, [], []⟩
    let empty := explicit &&
      (start.tokens.isEmpty || start.isAt [.documentStart, .documentEnd] ||
        start.next.any isDirective)
    let (root, reading) ←
      if empty then some (blank none, start) else take? (4 * tokens.length + 4) .block start
    if reading.tokens.all (· = .documentEnd) then return ⟨some root, reading.named⟩ else none

end Node

def Document.ofText? (text : String) : Option Document := (tokens? text).bind Node.document?

end Yaml

end ResultCache
