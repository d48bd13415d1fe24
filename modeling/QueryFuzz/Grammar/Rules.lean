import QueryFuzz.NameSet

/-!
# Rules of the grammar

Each nonterminal offers weighted alternatives, and each alternative has a rule name by which its
use is counted. For the two nonterminals that can nest, the first alternative is the one that
does not.
-/

namespace QueryFuzz
namespace Grammar

structure Alternative where
  rule : String
  weight : Float

inductive Nonterminal where
  | statement
  | distinct
  | items
  | source
  | join
  | filter
  | group
  | compound
  | order
  | limit
  | expression
  | predicate
  | insertion
  | update
  | deletion
  | definition
  deriving DecidableEq, Repr

namespace Nonterminal

def all : List Nonterminal :=
  [statement, distinct, items, source, join, filter, group, compound, order, limit, expression,
    predicate, insertion, update, deletion, definition]

def alternatives : Nonterminal → List Alternative
  | statement =>
    [⟨"stmt.select", 6.0⟩, ⟨"stmt.insert", 1.0⟩, ⟨"stmt.update", 1.0⟩, ⟨"stmt.delete", 1.0⟩,
      ⟨"stmt.ddl", 1.0⟩]
  | distinct => [⟨"select.all", 4.0⟩, ⟨"select.distinct", 1.0⟩]
  | items =>
    [⟨"items.star", 1.0⟩, ⟨"items.columns", 3.0⟩, ⟨"items.expressions", 2.0⟩,
      ⟨"items.aggregate", 1.0⟩]
  | source => [⟨"from.single", 3.0⟩, ⟨"from.join", 1.0⟩]
  | join => [⟨"join.inner", 2.0⟩, ⟨"join.left", 2.0⟩, ⟨"join.cross", 1.0⟩]
  | filter => [⟨"where.none", 1.0⟩, ⟨"where.predicate", 3.0⟩]
  | group => [⟨"group.none", 4.0⟩, ⟨"group.by", 1.0⟩, ⟨"group.having", 1.0⟩]
  | compound =>
    [⟨"compound.none", 8.0⟩, ⟨"compound.union", 1.0⟩, ⟨"compound.union-all", 1.0⟩,
      ⟨"compound.intersect", 1.0⟩, ⟨"compound.except", 1.0⟩]
  | order => [⟨"order.none", 1.0⟩, ⟨"order.by", 1.0⟩]
  | limit => [⟨"limit.none", 3.0⟩, ⟨"limit.count", 1.0⟩, ⟨"limit.offset", 1.0⟩]
  | expression =>
    [⟨"expr.column", 4.0⟩, ⟨"expr.literal", 2.0⟩, ⟨"expr.arithmetic", 1.0⟩,
      ⟨"expr.function", 1.0⟩, ⟨"expr.case", 0.5⟩, ⟨"expr.cast", 0.5⟩]
  | predicate =>
    [⟨"pred.compare", 4.0⟩, ⟨"pred.null-check", 1.0⟩, ⟨"pred.between", 1.0⟩,
      ⟨"pred.in-list", 1.0⟩, ⟨"pred.like", 1.0⟩, ⟨"pred.and", 1.5⟩, ⟨"pred.or", 1.0⟩,
      ⟨"pred.not", 0.5⟩, ⟨"pred.exists", 0.5⟩, ⟨"pred.in-subquery", 0.5⟩]
  | insertion => [⟨"insert.values", 3.0⟩, ⟨"insert.multi-row", 1.0⟩, ⟨"insert.select", 1.0⟩]
  | update => [⟨"update.where", 3.0⟩, ⟨"update.all", 1.0⟩]
  | deletion => [⟨"delete.where", 3.0⟩, ⟨"delete.all", 1.0⟩]
  | definition =>
    [⟨"ddl.create-table", 1.0⟩, ⟨"ddl.create-table-as", 1.0⟩, ⟨"ddl.create-index", 1.0⟩,
      ⟨"ddl.create-view", 1.0⟩, ⟨"ddl.alter-add-column", 1.0⟩]

/-- The rules of a nonterminal, in the order of its alternatives. -/
def rules (nt : Nonterminal) : List String :=
  nt.alternatives.map (·.rule)

end Nonterminal

def literalRules : List String := ["literal.ordinary", "literal.boundary"]

/-- Every rule that a generated query can exercise. -/
def allRules : List String :=
  Nonterminal.all.flatMap (·.rules) ++ literalRules

/-- The share of all rules that a set holds, in percent. -/
def coverage (rules : NameSet) : Float :=
  (allRules.filter rules.contains).length.toFloat * 100.0 / allRules.length.toFloat

end Grammar
end QueryFuzz
