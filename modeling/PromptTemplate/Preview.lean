import PromptTemplate.Engine

namespace PromptTemplate

def Span.toValue (s : Span) : Value :=
  .list [.int s.start, .int s.stop]

def Comparison.toValue (c : Comparison) : Value :=
  let text (t : Option Text) : Value := (t.map Value.text).getD .none
  .dict [("op".toList, .text c.op), ("literal".toList, text c.literal), ("other".toList, text c.other)]

namespace Annotated

def branch (shown : Bool) (children : List Value) : Value :=
  .dict [("taken".toList, .bool shown), ("children".toList, .list children)]

def toValues : Annotated → List Value
  | .nil => []
  | .text i c s v rest =>
      .dict
        [("type".toList, .text "text".toList), ("node_id".toList, .int i), ("span".toList, s.toValue),
         ("text".toList, .text c), ("visible".toList, .bool v)] :: toValues rest
  | .variable i l r s v rest =>
      .dict
        [("type".toList, .text "variable".toList), ("node_id".toList, .int i),
         ("span".toList, s.toValue), ("key".toList, .text r.key), ("label".toList, .text l),
         ("displayed_value".toList, .text r.display),
         ("display_state".toList, .text r.state.name),
         ("is_explicitly_set".toList, .bool r.isExplicit),
         ("has_default_fallback".toList, .bool r.usesDefault), ("visible".toList, .bool v)]
        :: toValues rest
  | .block i o s out b v f c _ h g d rest =>
      .dict (
        [("type".toList, .text "block".toList), ("node_id".toList, .int i),
         ("span".toList, s.toValue), ("helper".toList, .text o.helper.name),
         ("key".toList, .text o.key), ("inverted".toList, .bool o.inverted),
         ("comparison".toList, (o.comparison.map Comparison.toValue).getD .none),
         ("condition_value".toList, .bool out.value), ("resolved_condition".toList, .bool b),
         ("visible".toList, .bool v), ("consequent".toList, branch f (toValues c)),
         ("alternate".toList, if h then branch g (toValues d) else .none)] ++
        match out.error with
        | some x => [("comparison_error".toList, .text x.message)]
        | none => []) :: toValues rest

end Annotated

def Preview.toValue (p : Preview) : Value :=
  .dict [("children".toList, .list p.children.toValues)]

end PromptTemplate
