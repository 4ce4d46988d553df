/-
The JSON form of the messages between clients and the compile worker.

Assets are an object from paths to bytes, left out where there are none.
-/
import Typeset.Compile.Message
import Typeset.Json

namespace Typeset.Compile

namespace Assets

def toJson (a : Assets) : Json := .obj (a.entries.map fun e => (e.1, .ofBytes e.2))

/-- An asset of an object's field. -/
def entry? (field : String × Json) : Option (String × List UInt8) :=
  field.2.bytes?.map (field.1, ·)

def ofJson? : Json → Option Assets
  | .obj fields => (fields.mapM entry?).map PathMap.ofList
  | _ => none

end Assets

namespace Request

def toJson (r : Request) : Json :=
  .obj
    ([("id", .str r.id), ("mainTypst", .str r.main)]
      ++ if r.assets.isEmpty then [] else [("assets", Assets.toJson r.assets)])

def ofJson? (j : Json) : Option Request := do
  let fs ← j.record? ["id", "mainTypst", "assets"]
  let id ← fs.string? "id"
  let main ← fs.string? "mainTypst"
  match fs.get? "assets" with
  | none => return { id, main }
  | some assets => return { id, main, assets := ← Assets.ofJson? assets }

end Request

namespace Outcome

def toJson : Outcome → Json
  | .ok pdf diagnostics =>
    .obj [("status", .str "ok"), ("pdf", .ofBytes pdf), ("diagnostics", .ofStrings diagnostics)]
  | .err error diagnostics =>
    .obj [("status", .str "err"), ("error", .str error), ("diagnostics", .ofStrings diagnostics)]

/-- The variants of outcomes. -/
def variants : Json.Variants :=
  [("ok", ["pdf", "diagnostics"]), ("err", ["error", "diagnostics"])]

def ofJson? (j : Json) : Option Outcome := do
  let v ← j.variant? "status" variants false
  match v.tag with
  | "ok" =>
    return .ok (← v.fields.read? "pdf" Json.bytes?)
      (← v.fields.read? "diagnostics" Json.strings?)
  | "err" =>
    return .err (← v.fields.string? "error") (← v.fields.read? "diagnostics" Json.strings?)
  | _ => none

end Outcome

namespace Response

def toJson (r : Response) : Json := .obj [("id", .str r.id), ("result", r.outcome.toJson)]

def ofJson? (j : Json) : Option Response := do
  let fs ← j.record? ["id", "result"]
  return ⟨← fs.string? "id", ← fs.read? "result" Outcome.ofJson?⟩

end Response

end Typeset.Compile
