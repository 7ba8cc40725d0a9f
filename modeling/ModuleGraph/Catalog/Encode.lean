import ModuleGraph.Catalog.Basic

/-!
# Writing templates

## Main definitions

- `Template.encode` — the JSON value of a template
-/

namespace ModuleGraph

variable {L : Type} [Label L]

open Label (toJson)

def PortSpec.encode (spec : PortSpec L) : Json :=
  .object
    [("name", toJson spec.name),
      ("type", toJson spec.type),
      ("required", .bool spec.required),
      ("description", toJson spec.description)]

def Template.encode (template : Template L) : Json :=
  .object
    [("id", toJson template.id),
      ("name", toJson template.name),
      ("category", toJson template.category),
      ("type", toJson template.kind),
      ("description", toJson template.description),
      ("isBuiltIn", .bool template.builtIn),
      ("inputs", .array (template.inputs.map PortSpec.encode)),
      ("outputs", .array (template.outputs.map PortSpec.encode))]

end ModuleGraph
