import Instrument.Print.Block
import Instrument.Print.Generics

/-!
# Printing items and members

Each item ends its line, and the items of a body are written one below the other.  Items that keep
tokens without structure have no printed form.
-/

namespace Instrument
namespace Print

open Layout

def missing : Printed :=
  ⟨.absent, fun _ => .empty, []⟩

/-- Names behind which a restricted visibility has no `in`. -/
def nearModules : List String := ["self", "super", "crate"]

/-- A visibility and the space behind it. -/
def visibilityDocument (kind : Kind) (parts : List Printed) : Document :=
  match kind, parts with
  | .publicVisibility, _ => .text "pub "
  | .restrictedVisibility, [_, _, _, path, _] =>
    let isNear := nearModules.any fun name => isName name path.tree
    .text "pub(" ++ (if isNear then .empty else .text "in ") ++ path.document .bare ++ .text ") "
  | _, _ => .empty

/-- A parameter or a receiver of a function. -/
def parameterDocument (kind : Kind) (parts : List Printed) : Document :=
  match kind, parts with
  | .receiver, [outer, ampersand, region, mutable, _, colon, type] =>
    outer.plain ++
      ampersand.whenPresent (.text "&" ++ region.whenPresent (region.plain ++ .blank)) ++
      mutable.keyword ++ .text "self" ++ colon.whenPresent (.text ": " ++ type.plain)
  | .parameter, [outer, pattern, _, type] =>
    outer.plain ++ pattern.plain ++ .text ": " ++ type.plain
  | .variadic, [outer, pattern, _, _] =>
    outer.plain ++ pattern.whenPresent (pattern.plain ++ .text ": ") ++ .text "..."
  | _, _ => .empty

def signatureDocument (parts : List Printed) : Document :=
  match parts with
  | [constant, asynchrony, safety, interface, _, name, parameters, _, _, inputs, _, output] =>
    constant.keyword ++ asynchrony.keyword ++ safety.keyword ++ interface.plain ++ .text "fn " ++
      name.plain ++ parameters.plain ++ .text "(" ++ .glue ++
      .level (.cut ++ parameterList .variadic inputs.elements ++ .outdent) ++ .text ")" ++
      .outdented output.plain
  | _ => .empty

def constraintsOf (signature : Printed) : Printed :=
  match signature.parts with
  | [_, _, _, _, _, _, _, constraints, _, _, _, _] => constraints
  | _ => missing

/-- A function with a body or a semicolon. -/
def functionDocument (parts : List Printed) : Document :=
  match parts with
  | [outer, inner, visible, mode, signature, block] =>
    let head := visible.plain ++ mode.keyword ++ signature.plain
    outer.plain ++
      (if block.isKind .block then
        braced (head ++ whereLines .body (constraintsOf signature))
          (inner.plain ++ statementLines block)
      else .body (head ++ whereLines .semicolon (constraintsOf signature))) ++ .line
  | _ => .empty

def membersDocument (head inner : Document) (members : Printed) : Document :=
  match members.parts with
  | [_, elements, _] => braced head (inner ++ elements.plain)
  | _ => .empty

/-- Fields or variants, each on a line of its own. -/
def fieldLines (fields : List Printed) : Document :=
  .join (fields.map fun field => field.plain ++ .text "," ++ .line)

def fieldsOf (fields : Printed) : List Printed :=
  match fields.parts with
  | [_, elements, _] => elements.elements
  | _ => []

/-- Fields with numbers.  Their lines end with those of the box around them. -/
def tupleFieldsDocument (fields : Printed) : Document :=
  .text "(" ++ .cut ++ commaList (fieldsOf fields) ++ .outdent ++ .text ")"

def variantFields (fields : Printed) : Document :=
  if fields.isKind .namedFields then
    .text " \x7b" ++ .body (.space ++
      .eachLast (fun field isLast => field.plain ++ .commaOrSpace isLast) (fieldsOf fields) ++
      .outdent) ++ .text "\x7d"
  else if fields.isKind .tupleFields then .body (tupleFieldsDocument fields)
  else .empty

/-- A field, a variant or the trait of an `impl` block. -/
def partDocument (kind : Kind) (parts : List Printed) : Document :=
  match kind, parts with
  | .field, [outer, visible, name, _, type] =>
    outer.plain ++ visible.plain ++ name.whenPresent (name.plain ++ .text ": ") ++ type.plain
  | .variant, [outer, name, fields, equals, value] =>
    outer.plain ++ name.plain ++ variantFields fields ++
      equals.whenPresent (.text " = " ++ value.plain)
  | .implementedTrait, [negation, path, _] =>
    negation.whenPresent (.text "!") ++ path.plain ++ .space ++ .text "for "
  | _, _ => .empty

/-- The tree that a path in a `use` leads to. -/
def useTarget : Tree Token → Tree Token
  | .node .usePath [_, _, target] => useTarget target
  | other => other

/-- What stands behind an element of a group in a `use`.  A group ends its line. -/
def behindUse (tree : Printed) (isLast : Bool) : Document :=
  if isLast then .empty
  else if (useTarget tree.tree).isKind .useGroup then .text "," ++ .line
  else .text "," ++ .space

def useDocument (kind : Kind) (parts : List Printed) : Document :=
  match kind, parts with
  | .usePath, [name, _, tree] => name.plain ++ .text "::" ++ tree.plain
  | .useName, [name] => name.plain
  | .useRename, [name, _, renamed] => name.plain ++ .text " as " ++ renamed.plain
  | .useGlob, _ => .text "*"
  | .useGroup, [_, trees, _] =>
    .text "\x7b" ++ .body (.cut ++
      .filled 0 (.eachLast (fun tree isLast => tree.plain ++ behindUse tree isLast)
        trees.elements) ++ .comma true ++ .outdent) ++ .text "\x7d"
  | _, _ => .empty

/-- A constant or a static behind its keyword. -/
def valueDocument (name type equals value : Printed) : Document :=
  name.plain ++ .text ": " ++ type.plain ++
    equals.whenPresent (.text " = " ++ .glue ++ value.plain) ++ .text ";"

def assignedType (equals : String) (type : Printed) : Document :=
  .text equals ++ .glue ++ .filled (-Document.step) type.plain

/-- An item that declares a type or a trait, a module or a block. -/
def declarationDocument (kind : Kind) (parts : List Printed) : Document :=
  match kind, parts with
  | .enumItem, [outer, visible, _, name, parameters, constraints, _, variants, _] =>
    outer.plain ++ braced (visible.plain ++ .text "enum " ++ name.plain ++ parameters.plain ++
      whereLines .body constraints) (fieldLines variants.elements) ++ .line
  | .structItem, [outer, visible, _, name, parameters, constraints, fields, _] =>
    let head := visible.plain ++ .text "struct " ++ name.plain ++ parameters.plain
    outer.plain ++
      (if fields.isPresent then
        braced (head ++ whereLines .body constraints) (fieldLines (fieldsOf fields))
      else .body (head ++ whereLines .semicolon constraints)) ++ .line
  | .tupleStructItem, [outer, visible, _, name, parameters, constraints, fields, _] =>
    outer.plain ++ .body (visible.plain ++ .text "struct " ++ name.plain ++ parameters.plain ++
      tupleFieldsDocument fields ++ whereLines .semicolon constraints) ++ .line
  | .unionItem, [outer, visible, _, name, parameters, constraints, fields] =>
    outer.plain ++ braced (visible.plain ++ .text "union " ++ name.plain ++ parameters.plain ++
      whereLines .body constraints) (fieldLines (fieldsOf fields)) ++ .line
  | .traitItem, [outer, inner, visible, safety, auto, _, name, parameters, constraints, _, bounds,
      members] =>
    outer.plain ++ membersDocument (visible.plain ++ safety.keyword ++ auto.keyword ++
      .text "trait " ++ name.plain ++ parameters.plain ++
      boundList (.text ": ") plusSign bounds.elements ++ whereLines .body constraints)
      inner.plain members ++ .line
  | .implItem, [outer, inner, mode, safety, _, parameters, constraints, implemented, type,
      members] =>
    outer.plain ++ membersDocument (.filled (-Document.step) (.body (mode.keyword ++
      safety.keyword ++ .text "impl" ++ parameters.plain) ++ .blank ++ implemented.plain ++
      type.plain) ++ whereLines .body constraints) inner.plain members ++ .line
  | .foreignModule, [outer, inner, safety, interface, members] =>
    outer.plain ++ membersDocument (safety.keyword ++ interface.plain) inner.plain members ++ .line
  | .moduleItem, [outer, inner, visible, safety, _, name, members] =>
    let head := visible.plain ++ safety.keyword ++ .text "mod " ++ name.plain
    outer.plain ++
      (if members.isKind .members then membersDocument (head ++ .blank) inner.plain members
      else .body (head ++ .text ";")) ++ .line
  | .traitAliasItem, [outer, visible, _, name, parameters, constraints, _, bounds, _] =>
    outer.plain ++ .body (visible.plain ++ .text "trait " ++ name.plain ++ parameters.plain ++
      .text " = " ++ .glue ++ boundList .empty plusGap bounds.elements ++
      whereLines .semicolon constraints) ++ .line
  | .typeItem, [outer, visible, _, name, parameters, constraints, _, type, _] =>
    outer.plain ++ .body (visible.plain ++ .text "type " ++ name.plain ++ parameters.plain ++
      whereLine .body constraints ++ assignedType "= " type ++ .text ";") ++ .line
  | _, _ => .empty

/-- A constant, a static, an import or an invocation, or a member that is not a function. -/
def memberDocument (kind : Kind) (parts : List Printed) : Document :=
  match kind, parts with
  | .constItem, [outer, visible, _, name, _, type, equals, value, _] =>
    outer.plain ++ .level (visible.plain ++ .text "const " ++
      valueDocument name type equals value) ++ .line
  | .staticItem, [outer, visible, _, mutable, name, _, type, equals, value, _] =>
    outer.plain ++ .level (visible.plain ++ .text "static " ++ mutable.keyword ++
      valueDocument name type equals value) ++ .line
  | .externCrateItem, [outer, visible, _, _, name, as, renamed, _] =>
    outer.plain ++ visible.plain ++ .text "extern crate " ++ name.plain ++
      as.whenPresent (.text " as " ++ renamed.plain) ++ .text ";" ++ .line
  | .useItem, [outer, visible, _, leading, tree, _] =>
    outer.plain ++ visible.plain ++ .text "use " ++ leading.whenPresent (.text "::") ++
      tree.plain ++ .text ";" ++ .line
  | .macroItem, [outer, path, _, name, opening, body, _, _] =>
    macroItemDocument outer path name opening body
  | .macroMember, [outer, invocation, _] =>
    outer.plain ++ invocation.document .terminated ++ .line
  | .implConst, [outer, visible, mode, _, name, _, type, equals, value, _] =>
    outer.plain ++ .level (visible.plain ++ mode.keyword ++ .text "const " ++
      valueDocument name type equals value) ++ .line
  | .traitConst, [outer, _, name, _, type, equals, value, _] =>
    outer.plain ++ .level (.text "const " ++ valueDocument name type equals value) ++ .line
  | .foreignStatic, [outer, visible, _, mutable, name, _, type, _] =>
    outer.plain ++ .level (visible.plain ++ .text "static " ++ mutable.keyword ++
      valueDocument name type missing missing) ++ .line
  | .foreignType, [outer, visible, _, name, parameters, _, _] =>
    outer.plain ++ .level (visible.plain ++ .text "type " ++ name.plain ++ parameters.plain ++
      .text ";") ++ .line
  | .implTypeMember, [outer, visible, mode, _, name, parameters, constraints, _, type, _] =>
    outer.plain ++ .body (visible.plain ++ mode.keyword ++ .text "type " ++ name.plain ++
      parameters.plain ++ assignedType " = " type ++ whereLine .semicolon constraints) ++ .line
  | .traitTypeMember, [outer, _, name, parameters, constraints, _, bounds, equals, type, _] =>
    outer.plain ++ .body (.text "type " ++ name.plain ++ parameters.plain ++
      boundList (.text ": ") plusGap bounds.elements ++
      equals.whenPresent (assignedType " = " type) ++ whereLine .semicolon constraints) ++ .line
  | _, _ => .empty

end Print
end Instrument
