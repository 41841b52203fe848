import ByokGrid.BulkRuns
import ByokGrid.GridWrites

/-! Creating tables and columns: input columns, formula columns with their first
evaluation, and connector columns with the columns they read. -/

namespace ByokGrid

def MAXIMUM_WORKSPACE_TABLES : Nat := 100
def MAXIMUM_TABLE_COLUMNS : Nat := 256

section Names

variable {ν : Type}

/-- `displayNameSchema`. -/
def parseDisplayName (ν : Type) [JsRuntime ν] (text : String) : Option String :=
  let value := JsRuntime.normalizeNFKC ν (jsTrim text)
  if 1 ≤ utf16Length value ∧ utf16Length value ≤ 120 ∧
      (value.toList.any fun c => c.toNat ≤ 0x1F || c.toNat = 0x7F) = false then some value
  else none

/-- `editableInputValueTypeSchema`. -/
def isEditableType (type : CellValueType) : Bool :=
  type ≠ .empty

/-- `lower(left) = lower(right)`. -/
def sameName (left right : String) : Bool :=
  asciiLower left = asciiLower right

def requireColumnName (grid : Grid ν) (tableId name : String) : Except StoreError Unit := do
  let tableColumns := grid.columns.records.filter fun column => column.tableId = tableId
  requireThat (tableColumns.length < MAXIMUM_TABLE_COLUMNS)
    (.validation "A table can contain at most 256 columns.")
  requireThat (!tableColumns.any fun column => sameName column.name name)
    (.conflict "A column with this name already exists.")

/-- `name.trim()`, checked without the schema. -/
def requireTrimmedName (name : String) : Except StoreError String :=
  let trimmed := jsTrim name
  if trimmed = "" ∨ utf16Length trimmed > 120 then
    .error (.validation "Column names must contain 1 to 120 characters.")
  else .ok trimmed

end Names

section Input

variable {ν : Type} [JsRuntime ν]

/-- The names of the tables, which the grid leaves out, are read through `tableName`. -/
structure CreateWorkspaceTable where
  tableId : String
  firstColumnId : String
  firstColumnName : String
  firstColumnValueType : CellValueType
  name : String
  userId : String
  tableName : String → String

def inputColumn (id tableId name : String) (valueType : CellValueType) : Column ν :=
  { id := id, tableId := tableId, name := name, kind := .input, valueType := valueType, configuration := .plain,
    archivedAt := none }

def createSqliteWorkspaceTable (db : Database ν) (input : CreateWorkspaceTable) : Except StoreError (Database ν) := do
  let name ← requireSome (parseDisplayName ν input.name) .request
  let firstColumnName ← requireSome (parseDisplayName ν input.firstColumnName) .request
  requireThat (isEditableType input.firstColumnValueType) .request
  requireThat (db.workspaceMembers.get? input.userId).isSome (.access "The workspace is not accessible.")
  requireThat (db.grid.dataTables.records.length < MAXIMUM_WORKSPACE_TABLES)
    (.validation "A workspace can contain at most 100 tables.")
  requireThat (!db.grid.dataTables.records.any fun table => sameName (input.tableName table.id) name)
    (.conflict "A table with this name already exists.")
  let tables ← requireSome (db.grid.dataTables.insert { id := input.tableId, archivedAt := none })
    (.constraint "data_tables_id")
  let grid ← insertColumn { db.grid with dataTables := tables }
    (inputColumn input.firstColumnId input.tableId firstColumnName input.firstColumnValueType)
  return { db with grid := grid }

structure CreateInputColumn where
  columnId : String
  tableId : String
  userId : String
  name : String
  valueType : CellValueType
  deriving Repr, DecidableEq

def createSqliteInputColumn (db : Database ν) (input : CreateInputColumn) : Except StoreError (Database ν) := do
  let name ← requireSome (parseDisplayName ν input.name) .request
  requireThat (isEditableType input.valueType) .request
  requireTableAccess db input.tableId input.userId
  requireColumnName db.grid input.tableId name
  let grid ← insertColumn db.grid (inputColumn input.columnId input.tableId name input.valueType)
  return { db with grid := grid }

end Input

section Dependencies

variable {ν : Type}

def columnDependency (tableId columnId dependsOnColumnId : String) : ColumnDependency :=
  { columnId := columnId, dependsOnColumnId := dependsOnColumnId, tableId := tableId }

def insertDependentColumn (grid : Grid ν) (column : Column ν) (dependencyIds : List String) :
    Except StoreError (Grid ν) := do
  let created ← insertColumn grid column
  let dependencies ← requireSome (created.columnDependencies.insertAll
    (dependencyIds.map (columnDependency column.tableId column.id))) (.constraint "column_dependencies_primary_key")
  return { created with columnDependencies := dependencies }

def availableColumns (grid : Grid ν) (tableId : String) (columnIds : List String) : List (Column ν) :=
  grid.columns.records.filter fun column =>
    column.tableId = tableId && column.archivedAt.isNone && column.id ∈ columnIds

end Dependencies

/-- The parser of formula sources, under the columns a source may name. -/
class FormulaLanguage (ν : Type) where
  parseFormulaSource : String → List (Column ν) → Except FormulaDefinitionError (FormulaExpression ν)

section Formula

variable {ν : Type} [JsRuntime ν]

mutual

/-- `formulaExpressionSchema`. -/
def FormulaExpression.accepted : FormulaExpression ν → Bool
  | .column columnId => isEntityId columnId
  | .literal value => value.accepted
  | .call _ args => 1 ≤ args.length && args.length ≤ 16 && FormulaExpression.acceptedAll args

def FormulaExpression.acceptedAll : List (FormulaExpression ν) → Bool
  | [] => true
  | argument :: args => argument.accepted && FormulaExpression.acceptedAll args

end

structure CreateFormulaColumn (ν : Type) where
  columnId : String
  tableId : String
  userId : String
  name : String
  expression : Option (FormulaExpression ν)
  source : Option String
  rowPosition : String → String
  mutation : Nat → MutationStamp

/-- A `FormulaDefinitionError` is one of validation. -/
def requireFormula {α : Type} (result : Except FormulaDefinitionError α) : Except StoreError α :=
  match result with
  | .ok value => .ok value
  | .error error => .error (.validation error.message)

def activeRows (grid : Grid ν) (tableId : String) (position : String → String) : List String :=
  ((grid.rows.records.filter fun row => row.tableId = tableId && row.archivedAt.isNone).insertionSort
    fun left right => position left.id ≤ position right.id).map Row.id

def evaluateRows (tableId : String) (dependencyIds : List String) (mutation : Nat → MutationStamp) :
    Nat → List String → Database ν → Except StoreError (Database ν)
  | _, [], db => .ok db
  | index, rowId :: rowIds, db => do
    let recomputed ← recomputeFormulas db.grid tableId rowId dependencyIds
    let evaluated : Database ν := { db with grid := recomputed.2 }
    if recomputed.1 = [] then evaluateRows tableId dependencyIds mutation (index + 1) rowIds evaluated
    else do
      let recorded ← recordSqliteRowMutationAndMaybeQueueSettlement evaluated
        { changedColumnIds := recomputed.1, rowId := rowId, tableId := tableId } (mutation index)
      evaluateRows tableId dependencyIds mutation (index + 1) rowIds recorded

variable [FormulaLanguage ν]

def formulaExpression (input : CreateFormulaColumn ν) (columns : List (Column ν)) :
    Except StoreError (FormulaExpression ν) :=
  match input.source, input.expression with
  | some source, none => requireFormula (FormulaLanguage.parseFormulaSource source columns)
  | none, some expression => .ok expression
  | _, _ => .error (.validation "Provide exactly one formula expression or formula source string.")

def createSqliteFormulaColumn (db : Database ν) (input : CreateFormulaColumn ν) :
    Except StoreError (Column ν × Database ν) := do
  requireThat (input.expression.isNone != input.source.isNone)
    (.validation "Provide exactly one formula expression or formula source string.")
  let name ← requireTrimmedName input.name
  requireTablePermission db input.tableId input.userId .schemaManage
  requireColumnName db.grid input.tableId name
  let available := db.grid.columns.records.filter fun column =>
    column.tableId = input.tableId && column.archivedAt.isNone
  let expression ← formulaExpression input available
  requireThat expression.accepted (.validation "The formula configuration is invalid.")
  let dependencyIds := collectFormulaColumnIds expression
  requireThat (!dependencyIds.isEmpty) (.validation "A formula must reference at least one source column.")
  let sourceColumns := availableColumns db.grid input.tableId dependencyIds
  requireThat (sourceColumns.length = dependencyIds.length)
    (.access "One or more formula source columns are not accessible.")
  let valueType ← requireFormula (validateFormulaDefinition expression fun columnId =>
    (sourceColumns.find? fun column => column.id = columnId).map Column.valueType)
  let created : Column ν :=
    { id := input.columnId, tableId := input.tableId, name := name, kind := .formula, valueType := valueType,
      configuration := .formula expression, archivedAt := none }
  let grid ← insertDependentColumn db.grid created dependencyIds
  let evaluated ← evaluateRows input.tableId dependencyIds input.mutation 0
    (activeRows grid input.tableId input.rowPosition) { db with grid := grid }
  return (created, evaluated)

end Formula

section Connector

variable {ν : Type}

structure CreateConnectorColumn (ν : Type) where
  columnId : String
  tableId : String
  userId : String
  name : String
  configuration : ConnectorActionConfiguration ν

/-- The bounds of `connectorActionColumnConfigurationSchema`, and the provenance of an artifact. -/
def ConnectorActionConfiguration.accepted (configuration : ConnectorActionConfiguration ν) : Bool :=
  1 ≤ configuration.inputBindings.length && configuration.inputBindings.length ≤ 32 &&
    configuration.publisherKeyIds.length ≤ 32 &&
    configuration.outputValueType ∈ [CellValueType.boolean, .json, .number, .text] &&
    (configuration.artifactSha256.isSome || configuration.publisherKeyIds.isEmpty)

def createSqliteConnectorActionColumn (db : Database ν) (input : CreateConnectorColumn ν) :
    Except StoreError (Column ν × Database ν) := do
  let configuration := input.configuration
  requireThat configuration.accepted .request
  let name ← requireTrimmedName input.name
  let sourceColumnIds := boundColumnIds configuration
  requireTablePermission db input.tableId input.userId .schemaManage
  requireSqliteConnectorExecutionAllowed db.connectorRevocations
    ⟨configuration.artifactSha256, configuration.connectorId, configuration.connectorVersion,
      configuration.publisherKeyIds⟩
  requireColumnName db.grid input.tableId name
  requireThat ((availableColumns db.grid input.tableId sourceColumnIds).length = sourceColumnIds.length)
    (.access "One or more connector input columns are not accessible.")
  requireThat (configuration.credentialId.all (usableCredential db.credentials configuration.connectorId))
    (.access "The connector credential is not accessible.")
  let created : Column ν :=
    { id := input.columnId, tableId := input.tableId, name := name, kind := .connector,
      valueType := configuration.outputValueType, configuration := .connectorAction configuration, archivedAt := none }
  let grid ← insertDependentColumn db.grid created sourceColumnIds
  return (created, { db with grid := grid })

/-- Whether a URL uses HTTPS and names no user, as the URL parser reads it. -/
class EndpointRuntime where
  isCredentialFreeHttps : String → Bool

structure HttpColumn (ν : Type) where
  columnId : String
  tableId : String
  userId : String
  name : String
  configuration : ColumnConfiguration ν
  credentialIds : List String
  errorLabel : String
  inputColumnId : String

def createSqliteHttpColumn (db : Database ν) (input : HttpColumn ν) : Except StoreError (Column ν × Database ν) := do
  let name ← requireTrimmedName input.name
  requireTablePermission db input.tableId input.userId .schemaManage
  requireColumnName db.grid input.tableId name
  let sourceColumn ← requireSome ((db.grid.columns.get? input.inputColumnId).filter fun column =>
    column.kind ∈ [ColumnKind.input, .formula, .connector] && column.tableId = input.tableId &&
      column.archivedAt.isNone) (.access "The source column is not accessible.")
  let availableCredentials := db.credentials.records.filter fun credential =>
    credential.id ∈ input.credentialIds && credential.connectorId = "http" && credential.revokedAt.isNone
  requireThat (availableCredentials.length = input.credentialIds.length)
    (.access ("One or more " ++ input.errorLabel ++ " credentials are not accessible."))
  let created : Column ν :=
    { id := input.columnId, tableId := input.tableId, name := name, kind := .connector, valueType := .json,
      configuration := input.configuration, archivedAt := none }
  let grid ← insertDependentColumn db.grid created [sourceColumn.id]
  return (created, { db with grid := grid })

variable [EndpointRuntime]

structure CreateHttpEnrichmentColumn where
  columnId : String
  tableId : String
  userId : String
  name : String
  configuration : HttpEnrichmentConfiguration
  deriving Repr, DecidableEq

def requireCredentialFreeUrl (url label : String) : Except StoreError Unit :=
  requireThat (EndpointRuntime.isCredentialFreeHttps url)
    (.validation (label ++ " must be credential-free HTTPS URLs."))

def createSqliteHttpEnrichmentColumn (db : Database ν) (input : CreateHttpEnrichmentColumn) :
    Except StoreError (Column ν × Database ν) := do
  requireCredentialFreeUrl input.configuration.baseUrl "Enrichment endpoints"
  createSqliteHttpColumn db
    { columnId := input.columnId
      tableId := input.tableId
      userId := input.userId
      name := input.name
      configuration := .httpEnrichment input.configuration
      credentialIds := input.configuration.credentialId.toList
      errorLabel := "enrichment"
      inputColumnId := input.configuration.inputColumnId }

structure CreateHttpWaterfallColumn where
  columnId : String
  tableId : String
  userId : String
  name : String
  configuration : HttpWaterfallConfiguration
  deriving Repr, DecidableEq

def requireCredentialFreeProviders : List HttpWaterfallProvider → Except StoreError Unit
  | [] => .ok ()
  | provider :: providers => do
    requireCredentialFreeUrl provider.baseUrl "Waterfall endpoints"
    requireCredentialFreeProviders providers

def createSqliteHttpWaterfallColumn (db : Database ν) (input : CreateHttpWaterfallColumn) :
    Except StoreError (Column ν × Database ν) := do
  let providers := input.configuration.providers
  requireThat (2 ≤ providers.length && providers.length ≤ 10 &&
    (distinct (providers.map HttpWaterfallProvider.id)).length = providers.length) .request
  requireCredentialFreeProviders providers
  createSqliteHttpColumn db
    { columnId := input.columnId
      tableId := input.tableId
      userId := input.userId
      name := input.name
      configuration := .httpWaterfall input.configuration
      credentialIds := distinct (providers.filterMap HttpWaterfallProvider.credentialId)
      errorLabel := "waterfall"
      inputColumnId := input.configuration.inputColumnId }

end Connector

end ByokGrid
