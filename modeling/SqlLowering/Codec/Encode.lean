import SqlLowering.Codec.Kind

/-!
# Encoding expressions

An expression is written as an object with its kind first and then its fields in order. The
receiver of a static call is left out, and so is a length that is not there; all other fields are
written, the lists of arguments and the origin of an access included. The store type of a cast is
not written: it is found again when the cast is compiled.
-/

namespace SqlLowering

namespace Expr

/-- The object of a kind with the given fields. -/
def tagged (kind : Kind) (fields : List (Field × Json)) : Json :=
  .object (("kind", .text kind.tag) :: fields.map fun f => (f.1.key, f.2))

mutual

def toJson : Expr → Json
  | column n t => tagged .column [(.name, .text n), (.datatype, t.toJson)]
  | literal v => tagged .literal [(.value, v.toJson)]
  | methodCall t m receiver args =>
    tagged .methodCall ([(.declaringType, t.toJson), (.method, .text m)] ++
      toJsonReceiver receiver ++ [(.args, .array (toJsonList args))])
  | function n args => tagged .function [(.name, .text n), (.args, .array (toJsonList args))]
  | binary o l r => tagged .binary [(.op, .text o), (.left, l.toJson), (.right, r.toJson)]
  | cast t _ e => tagged .cast [(.target, t.toJson), (.expr, e.toJson)]
  | index a is o =>
    tagged .index [(.array, a.toJson), (.indices, .array (toJsonList is)), (.origin, o.toJson)]

def toJsonReceiver : Option Expr → List (Field × Json)
  | none => []
  | some e => [(.receiver, e.toJson)]

def toJsonList : List Expr → List Json
  | [] => []
  | e :: es => e.toJson :: toJsonList es

end

end Expr

end SqlLowering
