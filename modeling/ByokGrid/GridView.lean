import ByokGrid.Grid

/-! Identifiers, search queries and grid-view filter trees, as their schemas
accept and normalize them. -/

namespace ByokGrid

def isHexDigit (c : Char) : Bool :=
  ('0' ≤ c && c ≤ '9') || ('a' ≤ c && c ≤ 'f') || ('A' ≤ c && c ≤ 'F')

def isLowerLetter (c : Char) : Bool :=
  'a' ≤ c && c ≤ 'z'

def isDecimalDigit (c : Char) : Bool :=
  '0' ≤ c && c ≤ '9'

def isUuidCharacter (position : Nat) (c : Char) : Bool :=
  if position = 8 || position = 13 || position = 18 || position = 23 then c == '-'
  else if position = 14 then '1' ≤ c && c ≤ '8'
  else if position = 19 then ['8', '9', 'a', 'b', 'A', 'B'].contains c
  else isHexDigit c

/-- `entityIdSchema`. -/
def isEntityId (id : String) : Bool :=
  (id.toList.length == 36 && id.toList.zipIdx.all fun c => isUuidCharacter c.2 c.1) ||
    id == "00000000-0000-0000-0000-000000000000" || id == "ffffffff-ffff-ffff-ffff-ffffffffffff"

section Search

variable (ν : Type) [JsRuntime ν]

def normalizeSearchQuery (query : String) : String :=
  collapseWhitespace (jsTrim (JsRuntime.normalizeNFKC ν query))

/-- `gridSearchQuerySchema`. -/
def parseGridSearchQuery (query : String) : Option String :=
  let value := normalizeSearchQuery ν query
  if 3 ≤ utf16Length value ∧ utf16Length value ≤ 120 then some value else none

theorem normalizeSearchQuery_idem (query : String) :
    normalizeSearchQuery ν (normalizeSearchQuery ν query) = normalizeSearchQuery ν query := by
  simp [normalizeSearchQuery, JsRuntime.normalizeNFKC_collapse]

theorem parseGridSearchQuery_idem {query value : String} (h : parseGridSearchQuery ν query = some value) :
    parseGridSearchQuery ν value = some value := by
  by_cases hlength : 3 ≤ utf16Length (normalizeSearchQuery ν query) ∧
      utf16Length (normalizeSearchQuery ν query) ≤ 120
  · have hvalue : normalizeSearchQuery ν query = value := by
      simpa only [parseGridSearchQuery, if_pos hlength, Option.some.injEq] using h
    rw [← hvalue]
    simp only [parseGridSearchQuery, normalizeSearchQuery_idem, if_pos hlength]
  · simp only [parseGridSearchQuery, if_neg hlength, reduceCtorEq] at h

end Search

inductive GridViewFilter (ν : Type) where
  | empty (columnId : String) (negated : Bool)
  | text (columnId : String) (contains : Bool) (value : String)
  | number (columnId : String) (comparison : Ordering) (value : ν)
  | boolean (columnId : String) (value : Bool)
  | timestamp (columnId : String) (after : Bool) (value : String)
  | status (columnId : String) (value : CellStatus)

inductive FilterCombinator where
  | and
  | or
  deriving Repr, DecidableEq

inductive GridViewFilterNode (ν : Type) where
  | leaf (filter : GridViewFilter ν)
  | group (combinator : FilterCombinator) (children : List (GridViewFilterNode ν))

structure GridViewFilterGroup (ν : Type) where
  combinator : FilterCombinator
  children : List (GridViewFilterNode ν)

def GridViewFilter.columnId {ν : Type} : GridViewFilter ν → String
  | .empty columnId _ | .text columnId _ _ | .number columnId _ _ | .boolean columnId _
  | .timestamp columnId _ _ | .status columnId _ => columnId

def MAXIMUM_GRID_VIEW_FILTERS : Nat := 12
def MAXIMUM_GRID_VIEW_FILTER_DEPTH : Nat := 3
def MAXIMUM_GRID_VIEW_GROUP_CHILDREN : Nat := 8

section Leaves

variable {ν : Type}

mutual

def GridViewFilterNode.leaves : GridViewFilterNode ν → List (GridViewFilter ν)
  | .leaf filter => [filter]
  | .group _ children => GridViewFilterNode.leavesOf children

def GridViewFilterNode.leavesOf : List (GridViewFilterNode ν) → List (GridViewFilter ν)
  | [] => []
  | child :: children => child.leaves ++ GridViewFilterNode.leavesOf children

end

def gridViewFilterLeaves (group : GridViewFilterGroup ν) : List (GridViewFilter ν) :=
  GridViewFilterNode.leavesOf group.children

mutual

/-- The depth and emptiness checks of `visit`: no issue below this node. -/
def GridViewFilterNode.nests : Nat → GridViewFilterNode ν → Bool
  | _, .leaf _ => true
  | depth, .group _ children =>
    depth + 1 ≤ MAXIMUM_GRID_VIEW_FILTER_DEPTH && !children.isEmpty &&
      GridViewFilterNode.nestsAll (depth + 1) children

def GridViewFilterNode.nestsAll : Nat → List (GridViewFilterNode ν) → Bool
  | _, [] => true
  | depth, child :: children => GridViewFilterNode.nests depth child && GridViewFilterNode.nestsAll depth children

end

variable [JsRuntime ν]

/-- `gridViewFilterSchema`. -/
def GridViewFilter.accepted : GridViewFilter ν → Bool
  | .empty columnId _ => isEntityId columnId
  | .text columnId _ value => isEntityId columnId && utf16Length value ≤ 4096
  | .number columnId _ value => isEntityId columnId && JsRuntime.isFinite value
  | .boolean columnId _ => isEntityId columnId
  | .timestamp columnId _ value => isEntityId columnId && JsRuntime.isIsoDatetime ν value
  | .status columnId _ => isEntityId columnId

mutual

def GridViewFilterNode.accepted : GridViewFilterNode ν → Bool
  | .leaf filter => filter.accepted
  | .group _ children =>
    children.length ≤ MAXIMUM_GRID_VIEW_GROUP_CHILDREN && GridViewFilterNode.acceptedAll children

def GridViewFilterNode.acceptedAll : List (GridViewFilterNode ν) → Bool
  | [] => true
  | child :: children => child.accepted && GridViewFilterNode.acceptedAll children

end

/-- `gridViewFilterTreeSchema`, which accepts a tree or rejects it unchanged. -/
def GridViewFilterGroup.accepted (group : GridViewFilterGroup ν) : Bool :=
  group.children.length ≤ MAXIMUM_GRID_VIEW_GROUP_CHILDREN &&
    GridViewFilterNode.acceptedAll group.children && GridViewFilterNode.nestsAll 1 group.children &&
    (gridViewFilterLeaves group).length ≤ MAXIMUM_GRID_VIEW_FILTERS

end Leaves

end ByokGrid
