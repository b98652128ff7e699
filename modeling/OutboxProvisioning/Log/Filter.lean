import OutboxProvisioning.Log.Filter.Directive

/-!
# Filters

A filter is a list of directives with commas between them. It is shown in an order of its own:
first the directives that can be decided from target and field names, then those about spans
and values, and in each part the more specific first. Of two directives about the same thing
the later one counts.

* `Filter.ofString`: the filter that a text stands for.
* `Filter.text`: how a filter is shown.
* `Filter.admits`: whether an entry is reported.
-/

namespace OutboxProvisioning.Log

/-- Directives that can be decided at once, and those about spans and values. -/
structure Filter where
  statics : List Filter.Directive
  dynamics : List Filter.Directive

namespace Filter

/-- Puts a directive into its place, instead of one about the same thing. -/
def place (d : Directive) : List Directive → List Directive
  | [] => [d]
  | e :: rest =>
    match d.order e with
    | .lt => d :: e :: rest
    | .eq => d :: rest
    | .gt => e :: place d rest

/-- A list of directives in order. -/
def arrange (ds : List Directive) : List Directive := ds.foldl (fun l d => place d l) []

/-- The filter of some directives. Those that only name a field are in both parts. -/
def ofDirectives (ds : List Directive) : Filter :=
  let (dynamics, others) := ds.partition Directive.isDynamic
  ⟨arrange ((others ++ dynamics).filter Directive.isStatic), arrange dynamics⟩

/-- The filter that a text stands for. -/
def ofString (s : String) : Except Flaw Filter :=
  (((s.splitOn ",").filter fun d => !d.isEmpty).mapM Directive.ofString).map ofDirectives

/-- A filter as it is shown. -/
def text (f : Filter) : String := ",".intercalate ((f.statics ++ f.dynamics).map Directive.text)

/-- Whether a directive is about entries of a target with these fields. -/
def concerns (d : Directive) (target : String) (fields : List String) : Bool :=
  (d.target.all fun t => t.isPrefixOf target) && d.field.all fun f => fields.contains f.name

/-- Whether an entry is reported: the first directive about it decides. The message counts as a
field. -/
def admits (f : Filter) (e : Entry) : Bool :=
  let fields := "message" :: e.fields.map Prod.fst
  match f.statics.find? fun d => concerns d e.origin.target fields with
  | some d => d.threshold.admits e.level
  | none => false

end Filter

end OutboxProvisioning.Log
