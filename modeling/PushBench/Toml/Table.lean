import PushBench.Toml.Value

/-!
# TOML tables

How a document's lines add up to one table. A table is opened by a header, implied by a header
below it, or made by dotted keys; each of these ways closes some of the others, so that no table is
defined twice.
-/

namespace PushBench.Toml

/-- How a table came about. -/
inductive Origin where
  /-- A header named it, or it is the document itself. -/
  | header
  /-- A header of a table below it named it. -/
  | implied
  /-- Dotted keys made it. -/
  | dotted
  deriving DecidableEq, Repr

/-- What stands under a key while a document is read. -/
inductive Node where
  | leaf (value : Toml)
  | table (origin : Origin) (members : List (String × Node))
  /-- An array of tables: those before the last, the nearest first, and the last. -/
  | series (earlier : List (List (String × Node))) (last : List (String × Node))

/-- The members of a table that is being read. -/
abbrev Members := List (String × Node)

/-- Changes what stands under a key; `none` stands under a key that is not there. -/
def alter (members : Members) (key : String) (change : Option Node → Option Node) :
    Option Members :=
  match members with
  | [] => (change none).map fun node ↦ [(key, node)]
  | (name, node) :: rest =>
    if name = key then (change (some node)).map fun node ↦ (name, node) :: rest
    else (alter rest key change).map ((name, node) :: ·)

/-- Changes the table at a path below a table. Tables that are not there are made. Of an array of
tables the last is meant. Dotted keys do not enter a table that a header named. -/
def changeAt (dotted : Bool) (change : Origin → Members → Option Members) :
    List String → Origin → Members → Option Members
  | [], origin, members => change origin members
  | key :: path, _, members =>
    alter members key fun
      | none =>
        let origin := if dotted then .dotted else .implied
        (changeAt dotted change path origin []).map (.table origin ·)
      | some (.leaf _) => none
      | some (.series earlier last) =>
        (changeAt dotted change path .header last).map (.series earlier ·)
      | some (.table origin inner) =>
        if dotted && origin == .header then none
        else (changeAt dotted change path origin inner).map (.table origin ·)

/-- Puts a value under a dotted key. Its table has to be made by dotted keys if and only if the key
has a path, and the last part of the key has to be new. -/
def assign (path : List String) (key : String) (value : Toml) (origin : Origin)
    (members : Members) : Option Members :=
  changeAt true
    (fun origin members ↦
      if (origin == .dotted) == path.isEmpty then none
      else
        alter members key fun
          | none => some (.leaf value)
          | some _ => none)
    path origin members

/-- Opens the table that a header names. It must not be there yet, except by implication. -/
def openTable (path : List String) (key : String) (members : Members) : Option Members :=
  changeAt false
    (fun _ members ↦
      alter members key fun
        | none => some (.table .header [])
        | some (.table .implied inner) => some (.table .header inner)
        | some _ => none)
    path .header members

/-- Opens one more table of the array of tables that a header names. -/
def openElement (path : List String) (key : String) (members : Members) : Option Members :=
  changeAt false
    (fun _ members ↦
      alter members key fun
        | none => some (.series [] [])
        | some (.series earlier last) => some (.series (last :: earlier) [])
        | some _ => none)
    path .header members

mutual

/-- The value of a node that has been read. -/
def Node.toValue : Node → Toml
  | .leaf value => value
  | .table _ members => .table (membersToValues members)
  | .series earlier last => .array (elementsToValues earlier ++ [.table (membersToValues last)])

/-- The values of the members of a table. -/
def membersToValues : List (String × Node) → List (String × Toml)
  | [] => []
  | (key, node) :: rest => (key, node.toValue) :: membersToValues rest

/-- The values of the tables of an array, the last of which comes first. -/
def elementsToValues : List (List (String × Node)) → List Toml
  | [] => []
  | members :: rest => elementsToValues rest ++ [.table (membersToValues members)]

end

/-! ## Documents -/

/-- A key is split into its path and its last part. -/
structure Key where
  path : List String
  last : String
  deriving DecidableEq, Repr

/-- All parts of a key. -/
def Key.parts (key : Key) : List String := key.path ++ [key.last]

/-- A line of a document that has a meaning. -/
inductive Statement where
  | header (key : Key)
  | element (key : Key)
  | assignment (key : Key) (value : Toml)

/-- The document so far, and the path of the table that assignments go to. -/
structure Draft where
  members : Members
  current : List String

namespace Draft

/-- Takes in one more statement. -/
def add (draft : Draft) : Statement → Option Draft
  | .header key => (openTable key.path key.last draft.members).map (⟨·, key.parts⟩)
  | .element key => (openElement key.path key.last draft.members).map (⟨·, key.parts⟩)
  | .assignment key value =>
    (changeAt false (fun _ members ↦ assign key.path key.last value .header members) draft.current
      .header draft.members).map ({ draft with members := · })

/-- The table that statements add up to. -/
def ofStatements (statements : List Statement) : Option Toml :=
  (statements.foldlM add ⟨[], []⟩).map fun draft ↦ .table (membersToValues draft.members)

end Draft

/-- The table that the assignments of an inline table add up to. -/
def inlineTable (assignments : List (Key × Toml)) : Option Toml :=
  (assignments.foldlM
    (fun members assignment ↦
      assign assignment.1.path assignment.1.last assignment.2 .header members)
    []).map fun members ↦ .table (membersToValues members)

end PushBench.Toml
