import QueryFuzz.Candidate
import QueryFuzz.Grammar.Phrase
import QueryFuzz.Grammar.Rules

/-!
# Generating queries

A query is expanded from the grammar by random choices; the rules that were used are collected
on the way. Nesting is bounded: expressions and predicates are given the number of levels that
remain, and with none left they take the alternative that does not nest. With coverage bias, an
alternative that neither the frontier nor the query so far has used is preferred. A look at a
position that a list does not have fails.
-/

namespace QueryFuzz
namespace Grammar

open Draw

structure Config where
  maxDepth : Nat
  boundaryProbability : Float
  /-- Prefer alternatives that have not been used. -/
  coverageBias : Bool

def Config.standard : Config := ⟨3, 0.3, false⟩

/-- What stays fixed while a query is expanded. -/
structure Setting where
  config : Config
  /-- The tables with a column. -/
  tables : List Table
  frontier : NameSet

/-- An expansion chooses at random and collects the rules it uses. It fails where it looks outside
of a list. -/
abbrev Expansion := StateT NameSet (OptionT Sampling)

/-- The tables that column names may refer to. -/
abbrev Scope := List Table

def useRule (rule : String) : Expansion Unit :=
  modify (·.insert rule)

/-- The item at a position. -/
def itemAt {α : Type} (items : List α) (i : Nat) : Expansion α :=
  items[i]?.getM

/-- So many items from a position on. -/
def slice {α : Type} (items : List α) (offset count : Nat) : Expansion (List α) :=
  if offset + count ≤ items.length then return (items.drop offset).take count else failure

/-- An item of a list that is not empty. -/
def pick {α : Type} (label : String) (items : List α) : Expansion α := do
  itemAt items (← Sampling.index label items.length)

def repeated {α : Type} (program : Expansion α) : Nat → Expansion (List α)
  | 0 => return []
  | n + 1 => do
    let first ← program
    return first :: (← repeated program n)

/-- Each of the programs in turn. -/
def inTurn {α : Type} : List (Expansion α) → Expansion (List α)
  | [] => return []
  | program :: rest => do
    let first ← program
    return first :: (← inTurn rest)

/-- The positions of the alternatives of a nonterminal that bias would try first. -/
def freshAlternatives (g : Setting) (used : NameSet) (nt : Nonterminal) : List Nat :=
  if g.config.coverageBias then
    (List.range nt.alternatives.length).filter fun i =>
      nt.rules[i]?.any fun r => !g.frontier.contains r && !used.contains r
  else []

/-- Chooses an alternative of a nonterminal and answers with its rule. -/
def expand (g : Setting) (nt : Nonterminal) : Expansion String := do
  let fresh := freshAlternatives g (← get) nt
  let i ←
    if fresh.isEmpty then
      (·.getD 0) <$> (Sampling.weighted "grammar" (nt.alternatives.map (·.weight)) : Expansion _)
    else pick "grammar.uncovered" fresh
  let rule ← itemAt nt.rules i
  useRule rule
  return rule

def columnRef (scope : Scope) (table : Table) (column : Column) : ColumnRef :=
  ⟨if 1 < scope.length then some table.name else none, column.name⟩

def anyColumn (scope : Scope) : Expansion (ColumnRef × ColumnType) := do
  let table ← pick "scope.table" scope
  let column ← pick "scope.column" table.columns
  return (columnRef scope table column, column.type)

/-- The columns in view whose type satisfies a test. -/
def columnsWhere (scope : Scope) (p : ColumnType → Bool) : List (ColumnRef × ColumnType) :=
  scope.flatMap fun t =>
    (t.columns.filter (p ·.type)).map fun c => (columnRef scope t c, c.type)

def columnWhere? (scope : Scope) (p : ColumnType → Bool) :
    Expansion (Option (ColumnRef × ColumnType)) :=
  Sampling.choose "scope.typed-column" (columnsWhere scope p)

def literal (g : Setting) (type : ColumnType) : Expansion String := do
  if ← Sampling.chance "literal.kind" g.config.boundaryProbability then
    useRule "literal.boundary"
    boundaryLiteral type
  else
    useRule "literal.ordinary"
    ordinaryLiteral type

def anyType : Expansion ColumnType :=
  pick "literal.type" ColumnType.all

/-- A choice among texts of which there is at least one. -/
def word (label : String) (words : List String) (otherwise : String) : Expansion String := do
  return (← Sampling.choose label words).getD otherwise

def comparisonPredicate (g : Setting) (scope : Scope) : Expansion Predicate := do
  let (c, type) ← anyColumn scope
  let op ← word "pred.op" ["=", "<>", "!=", "<", "<=", ">", ">=", "IS", "IS NOT"] "="
  if ← Sampling.chance "pred.column-rhs" 0.2 then
    match ← columnWhere? scope (· == type) with
    | some (other, _) => return .compare c op other.text
    | none => return .compare c op (← literal g type)
  else return .compare c op (← literal g type)

def inListPredicate (g : Setting) (scope : Scope) : Expansion Predicate := do
  let (c, type) ← anyColumn scope
  let count ← Sampling.between "pred.in-count" 1 4
  let items ← repeated (literal g type) count.toNat
  let negated ← Sampling.chance "pred.negate" 0.3
  return .inList c negated items

def betweenPredicate (g : Setting) (scope : Scope) : Expansion Predicate := do
  let (c, type) ← anyColumn scope
  let low ← literal g type
  let high ← literal g type
  let negated ← Sampling.chance "pred.negate" 0.3
  return .between c negated low high

def nullPredicate (scope : Scope) : Expansion Predicate := do
  let (c, _) ← anyColumn scope
  return .nullCheck c (← Sampling.chance "pred.negate" 0.5)

def matchingPredicate (scope : Scope) : Expansion Predicate := do
  let (c, _) ← match ← columnWhere? scope (· == .text) with
    | some found => pure found
    | none => anyColumn scope
  let pattern ← word "pred.pattern" ["'%a%'", "'a%'", "'%'", "'_'", "'%e'", "''"] "'%'"
  let glob ← Sampling.chance "pred.glob" 0.2
  return .matching c (if glob then "GLOB" else "LIKE") pattern

def subqueryPredicate (g : Setting) (scope : Scope) : Expansion Predicate := do
  let (c, _) ← anyColumn scope
  let table ← pick "table" g.tables
  let (inner, _) ← anyColumn [table]
  return .inSubquery c inner table.name

/-- A predicate with so many levels of nesting left. -/
def predicate (g : Setting) (scope : Scope) : Nat → Expansion Predicate
  | 0 => do
    useRule "pred.compare"
    comparisonPredicate g scope
  | levels + 1 => do
    match ← expand g .predicate with
    | "pred.null-check" => nullPredicate scope
    | "pred.between" => betweenPredicate g scope
    | "pred.in-list" => inListPredicate g scope
    | "pred.like" => matchingPredicate scope
    | "pred.and" =>
      let left ← predicate g scope levels
      return .both left (← predicate g scope levels)
    | "pred.or" =>
      let left ← predicate g scope levels
      return .either left (← predicate g scope levels)
    | "pred.not" => return .negation (← predicate g scope levels)
    | "pred.exists" =>
      let table ← pick "table" g.tables
      return .existsIn table.name (← predicate g [table] levels)
    | "pred.in-subquery" => subqueryPredicate g scope
    | _ => comparisonPredicate g scope

/-- Applies a function to an expression of the given type. -/
def applyFunction (g : Setting) (argument : Expression) (type : ColumnType) :
    Expansion (Expression × ColumnType) := do
  match ← Sampling.index "expr.function" 8 with
  | 0 => return (.call "ABS" argument [], type)
  | 1 => return (.call "COALESCE" argument [← literal g type], type)
  | 2 => return (.call "LENGTH" argument [], .integer)
  | 3 => return (.call "LOWER" argument [], .text)
  | 4 => return (.call "UPPER" argument [], .text)
  | 5 =>
    let start ← Sampling.between "expr.substr" (-2) 5
    return (.call "SUBSTR" argument [toString start, "3"], .text)
  | 6 => return (.call "TYPEOF" argument [], .text)
  | _ =>
    let digits ← Sampling.between "expr.round" 0 3
    return (.call "ROUND" argument [toString digits], .real)

/-- Joins an expression of the given type and a literal by an operator. -/
def applyOperator (g : Setting) (left : Expression) (type : ColumnType) :
    Expansion (Expression × ColumnType) := do
  let op ← word "expr.op" ["+", "-", "*", "/", "%", "||"] "+"
  if op == "||" then return (.binary left "||" (← literal g .text), .text)
  else
    let rightType := if type = .real then .real else .integer
    return (.binary left op (← literal g rightType), rightType)

/-- An expression with so many levels of nesting left, and its type. -/
def expression (g : Setting) (scope : Scope) : Nat → Expansion (Expression × ColumnType)
  | 0 => do
    useRule "expr.column"
    let (c, type) ← anyColumn scope
    return (.column c, type)
  | levels + 1 => do
    match ← expand g .expression with
    | "expr.literal" =>
      let type ← anyType
      return (.literal (← literal g type), type)
    | "expr.arithmetic" =>
      let (left, type) ← expression g scope levels
      applyOperator g left type
    | "expr.function" =>
      let (argument, type) ← expression g scope levels
      applyFunction g argument type
    | "expr.case" =>
      let condition ← predicate g scope levels
      let (result, type) ← expression g scope levels
      return (.conditional condition result (← literal g type), type)
    | "expr.cast" =>
      let (inner, _) ← expression g scope levels
      let target ← anyType
      return (.cast inner target, target)
    | _ =>
      let (c, type) ← anyColumn scope
      return (.column c, type)

/-- Levels of nesting inside a statement. -/
def Setting.levels (g : Setting) : Nat := g.config.maxDepth - 1

def aggregate (scope : Scope) : Expansion Aggregate := do
  let numeric ← columnWhere? scope ColumnType.isNumeric
  match ← Sampling.index "aggregate" 6, numeric with
  | 1, some (c, _) => return ⟨"SUM", some c⟩
  | 2, some (c, _) => return ⟨"AVG", some c⟩
  | 3, some (c, _) => return ⟨"TOTAL", some c⟩
  | 4, _ => return ⟨"MIN", some (← anyColumn scope).1⟩
  | 5, _ => return ⟨"MAX", some (← anyColumn scope).1⟩
  | _, _ =>
    if ← Sampling.chance "aggregate.count-star" 0.5 then return ⟨"COUNT", none⟩
    else return ⟨"COUNT", some (← anyColumn scope).1⟩

/-- The join condition of two tables: a column of each, of one type if possible. -/
def joinOn (kind : JoinKind) (first second : Table) : Expansion Join := do
  let (left, type) ← anyColumn [first]
  let (right, _) ← match ← columnWhere? [second] (· == type) with
    | some found => pure found
    | none => anyColumn [second]
  return .on kind second.name left.column right.column

/-- A second table by another name than the first, if the grammar chooses to join. -/
def secondTable? (g : Setting) (first : Table) : Expansion (Option Table) := do
  if 1 < g.tables.length then
    match ← expand g .source with
    | "from.join" => Sampling.choose "table.other" (g.tables.filter (·.name != first.name))
    | _ => return none
  else
    useRule "from.single"
    return none

def tableSource (g : Setting) : Expansion (TableSource × Scope) := do
  let first ← pick "table" g.tables
  match ← secondTable? g first with
  | none => return (⟨first.name, .none⟩, [first])
  | some second =>
    match ← expand g .join with
    | "join.cross" => return (⟨first.name, .cross second.name⟩, [first, second])
    | "join.left" => return (⟨first.name, ← joinOn .left first second⟩, [first, second])
    | _ => return (⟨first.name, ← joinOn .inner first second⟩, [first, second])

/-- The select list without grouping, and the number of its output columns. -/
def selectItems (g : Setting) (scope : Scope) : Expansion (Items × Nat) := do
  match ← expand g .items with
  | "items.star" => return (.star, scope.foldl (fun n t => n + t.columns.length) 0)
  | "items.expressions" =>
    let count := (← Sampling.between "items.count" 1 3).toNat
    let es ← repeated (expression g scope g.levels) count
    return (.expressions (es.map (·.1)), count)
  | "items.aggregate" =>
    let count := (← Sampling.between "items.count" 1 2).toNat
    return (.aggregates (← repeated (aggregate scope) count), count)
  | _ =>
    let count := (← Sampling.between "items.count" 1 3).toNat
    let cs ← repeated (anyColumn scope) count
    return (.columns (cs.map (·.1)), count)

/-- The select list, its width and the grouping. -/
def groupedItems (g : Setting) (scope : Scope) : Expansion (Items × Nat × Option Grouping) := do
  let group ← expand g .group
  if group == "group.none" then
    let (items, width) ← selectItems g scope
    return (items, width, none)
  else
    let count := (← Sampling.between "group.keys" 1 2).toNat
    let keys := (← repeated (anyColumn scope) count).map (·.1)
    let items := Items.grouped keys (← aggregate scope)
    if group == "group.having" then
      let a ← aggregate scope
      let bound ← literal g .integer
      return (items, count + 1, some ⟨keys, some (a, bound)⟩)
    else return (items, count + 1, some ⟨keys, none⟩)

/-- A condition if the nonterminal chooses the given rule. -/
def condition? (g : Setting) (nt : Nonterminal) (rule : String) (scope : Scope) :
    Expansion (Option Predicate) := do
  if (← expand g nt) == rule then return some (← predicate g scope g.levels)
  else return none

/-- A simple query with exactly `width` output columns: the first columns of a table, then
numbers. -/
def compoundArm (g : Setting) (width : Nat) : Expansion Arm := do
  let table ← pick "table" g.tables
  let items ← inTurn ((List.range width).map fun i =>
    match table.columns[i]? with
    | some c => pure (.column ⟨none, c.name⟩)
    | none => Expression.literal <$> literal g .integer)
  if ← Sampling.chance "compound.where" 0.5 then
    return ⟨items, table.name, some (← predicate g [table] g.levels)⟩
  else return ⟨items, table.name, none⟩

def compound? (g : Setting) (width : Nat) : Expansion (Option CompoundPart) := do
  match ← expand g .compound with
  | "compound.none" => return none
  | "compound.union" => return some ⟨"UNION", ← compoundArm g width⟩
  | "compound.union-all" => return some ⟨"UNION ALL", ← compoundArm g width⟩
  | "compound.intersect" => return some ⟨"INTERSECT", ← compoundArm g width⟩
  | _ => return some ⟨"EXCEPT", ← compoundArm g width⟩

def order? (g : Setting) (width : Nat) : Expansion (Option (List Bool)) := do
  if (← expand g .order) == "order.by" then return some (← directions (max width 1))
  else return none

def limitCount (g : Setting) : Expansion Int := do
  if ← Sampling.chance "limit.boundary" g.config.boundaryProbability then
    return (← Sampling.choose "limit.edge" [(0 : Int), 1, -1]).getD 1
  else Sampling.between "limit.count" 1 20

def limit? (g : Setting) : Expansion (Option LimitPart) := do
  match ← expand g .limit with
  | "limit.count" => return some ⟨← limitCount g, none⟩
  | "limit.offset" =>
    let count ← limitCount g
    return some ⟨count, some (← Sampling.between "limit.offset" 0 5)⟩
  | _ => return none

def selection (g : Setting) : Expansion Selection := do
  let (source, scope) ← tableSource g
  let distinct := (← expand g .distinct) == "select.distinct"
  let (items, width, grouping) ← groupedItems g scope
  let condition ← condition? g .filter "where.predicate" scope
  let compound ← compound? g width
  let order ← order? g width
  let limit ← limit? g
  return ⟨distinct, items, source, condition, grouping, compound, order, limit⟩

def insertion (g : Setting) : Expansion Query := do
  let table ← pick "table" g.tables
  let width := table.columns.length
  let count := (← Sampling.between "insert.columns" 1 (Width.signedLength width)).toNat
  let offset ← Sampling.index "insert.first-column" (width - count + 1)
  let columns ← slice table.columns offset count
  let names := columns.map (·.name)
  let row := inTurn (columns.map fun c => literal g c.type)
  match ← expand g .insertion with
  | "insert.select" =>
    return .insert table.name names (.copy (← predicate g [table] g.levels))
  | "insert.multi-row" =>
    let rows ← Sampling.between "insert.rows" 2 3
    return .insert table.name names (.values (← repeated row rows.toNat))
  | _ => return .insert table.name names (.values (← repeated row 1))

def update (g : Setting) : Expansion Query := do
  let table ← pick "table" g.tables
  let column ← pick "update.column" table.columns
  let value ← if ← Sampling.chance "update.expression" 0.3 then
      (·.1.text) <$> expression g [table] g.levels
    else literal g column.type
  return .update table.name column.name value (← condition? g .update "update.where" [table])

def deletion (g : Setting) : Expansion Query := do
  let table ← pick "table" g.tables
  return .delete table.name (← condition? g .deletion "delete.where" [table])

def definition (g : Setting) : Expansion Query := do
  let suffix ← Sampling.between "ddl.suffix" 0 999
  let table ← pick "table" g.tables
  match ← expand g .definition with
  | "ddl.create-table-as" =>
    return .createTableAs suffix table.name (← predicate g [table] g.levels)
  | "ddl.create-index" =>
    let (c, _) ← anyColumn [table]
    return .createIndex suffix (← Sampling.chance "ddl.unique" 0.2) table.name c
  | "ddl.create-view" =>
    let (c, _) ← anyColumn [table]
    return .createView suffix table.name c (← predicate g [table] g.levels)
  | "ddl.alter-add-column" =>
    let type ← anyType
    return .addColumn suffix table.name type (← Sampling.between "ddl.default" 0 100)
  | _ => return .createTable suffix table.columns

def query (g : Setting) : Expansion Query := do
  match ← expand g .statement with
  | "stmt.insert" => insertion g
  | "stmt.update" => update g
  | "stmt.delete" => deletion g
  | "stmt.ddl" => definition g
  | _ => return .select (← selection g)

/-- Why there is no candidate. -/
inductive Failure where
  /-- No table of the database at this position has a column. -/
  | noUsableTable (database : Nat)
  /-- The expansion looked outside of a list. -/
  | outOfRange
  deriving DecidableEq, Repr

def Failure.message : Failure → String
  | noUsableTable database => s!"Seed database {database} has no table with columns to query"
  | outOfRange => "index out of range"

/-- One candidate for a database. It may be unsatisfiable; that is no error. -/
def generate (config : Config) (database : Nat) (schema : Schema) (frontier : NameSet)
    (s : Source) : Except Failure Candidate × Source :=
  if schema.usableTables.isEmpty then (.error (.noUsableTable database), s)
  else
    let setting : Setting := ⟨config, schema.usableTables, frontier⟩
    match s.sample ((query setting).run .empty).run with
    | (none, s) => (.error .outOfRange, s)
    | (some (query, rules), s) =>
      let (candidate, s) := Candidate.generated query.text database rules s
      (.ok candidate, s)

end Grammar
end QueryFuzz
