import QueryEngine.Plan.Basic

namespace QueryEngine

structure ExplainEntry where
  name : String
  items : List (String × String) := []

namespace ExplainEntry

def withItem (e : ExplainEntry) (key value : String) : ExplainEntry :=
  let (before, after) := e.items.span fun item => compare item.1 key == .lt
  { e with items := before ++ (key, value) :: after }

def withList (e : ExplainEntry) (key : String) (values : List String) : ExplainEntry :=
  e.withItem key ("[" ++ Text.commaSeparated values ++ "]")

def display (e : ExplainEntry) : String :=
  if e.items.isEmpty then e.name
  else
    e.name ++ " (" ++ Text.commaSeparated (e.items.map fun (k, v) => k ++ " = " ++ v) ++ ")"

end ExplainEntry

namespace Plan

def bindingText (b : AggregateBinding) : String :=
  "#" ++ toString b.position ++ " " ++ b.function

def constantArgs : List (TableArg Plan) → List Value
  | [] => []
  | .constant v :: args => v :: constantArgs args
  | .relation _ :: args => constantArgs args

def baseEntry : Plan → ExplainEntry
  | load name _ => { name := "Load", items := [("name", name)] }
  | aliased name _ _ => { name := "Alias", items := [("name", name)] }
  | project _ es _ => ExplainEntry.withList ⟨"Projection", []⟩ "expressions" (es.map Expr.display)
  | select _ none _ => ⟨"Selection", []⟩
  | select _ (some e) _ => ⟨"Selection", [("predicate", e.display)]⟩
  | join _ _ none t _ => ⟨"Join", [("join_type", t.name)]⟩
  | join _ _ (some e) t _ => ⟨"Join", [("join_type", t.name), ("predicate", e.display)]⟩
  | unionAll .. => ⟨"UnionAll", []⟩
  | orderBy _ ks _ => ExplainEntry.withList ⟨"OrderBy", []⟩ "expressions" (ks.map Expr.display)
  | groupBy _ ks as _ =>
    let entry := ExplainEntry.withList ⟨"GroupBy", []⟩ "expressions" (ks.map Expr.display)
    if as.isEmpty then entry else entry.withList "aggregates" (as.map bindingText)
  | slice _ start stop _ =>
    ⟨"Slice", [("start", toString (start.getD 0)), ("stop", (stop.map toString).getD "None")]⟩
  | tableFunction name args _ =>
    ExplainEntry.withList ⟨"TableFunction", [("name", name)]⟩ "constants"
      ((constantArgs args).map Value.display)
  | placeholder => ⟨"Placeholder", []⟩

def entry (verbose : Bool) (p : Plan) : ExplainEntry :=
  match verbose, p.schema? with
  | true, some s => p.baseEntry.withItem "schema" s.display
  | _, _ => p.baseEntry

def line (verbose : Bool) (indent : Nat) (p : Plan) : String :=
  String.ofList (List.replicate indent ' ') ++ (p.entry verbose).display ++ "\n"

mutual

def explainFrom (verbose : Bool) (indent : Nat) : Plan → String
  | p@(load ..) | p@placeholder => p.line verbose indent
  | p@(aliased _ i _) | p@(project i _ _) | p@(select i _ _) | p@(orderBy i _ _)
  | p@(groupBy i _ _ _) | p@(slice i _ _ _) =>
    p.line verbose indent ++ i.explainFrom verbose (indent + 2)
  | p@(join l r _ _ _) | p@(unionAll l r _) =>
    p.line verbose indent ++ l.explainFrom verbose (indent + 2) ++
      r.explainFrom verbose (indent + 2)
  | p@(tableFunction _ args _) => p.line verbose indent ++ explainArgs verbose (indent + 2) args

def explainArgs (verbose : Bool) (indent : Nat) : List (TableArg Plan) → String
  | [] => ""
  | .constant _ :: args => explainArgs verbose indent args
  | .relation p :: args => p.explainFrom verbose indent ++ explainArgs verbose indent args

end

def explain (verbose : Bool) (p : Plan) : String :=
  p.explainFrom verbose 0

end Plan

end QueryEngine
