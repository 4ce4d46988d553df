/-
Messages survive being written and read.

What a client sends and what the worker answers is read back as it was, and so
are options and registries. Between the outcome of a run and what is sent of it
only the kind of a failure is lost: its text and its diagnostics stay, and what
comes back is sent as it came.
-/
import Typeset.Json.Compile
import Typeset.Json.Options
import Typeset.Json.Template
import Typeset.Proofs.Json.Respelled

namespace Typeset

/-! ## Values -/

theorem mapM_map {α β : Type} (write : α → β) (read : β → Option α)
    (h : ∀ a, read (write a) = some a) (as : List α) : (as.map write).mapM read = some as := by
  induction as with
  | nil => rfl
  | cons a as ih => simp [h a, ih]

namespace Json

variable {α : Type} (write : α → Json) (read : Json → Option α)

theorem listOf?_map (h : ∀ a, read (write a) = some a) (as : List α) :
    listOf? read (.arr (as.map write)) = some as :=
  mapM_map write read h as

theorem optional?_ofOption (hwrite : ∀ a, write a ≠ .null) (h : ∀ a, read (write a) = some a)
    (o : Option α) : optional? read (some (ofOption write o)) = some o := by
  cases o with
  | none => rfl
  | some a =>
    rw [ofOption, optional?, h a]
    · rfl
    · simpa using hwrite a

theorem strings?_ofStrings (ss : List String) : (ofStrings ss).strings? = some ss :=
  listOf?_map .str string? (fun _ => rfl) ss

theorem bytes?_ofBytes (bs : List UInt8) : (ofBytes bs).bytes? = some bs :=
  listOf?_map (fun b : UInt8 => .int b.toNat) byte? byte?_toNat bs

end Json

open Json

/-! ## Options and registries -/

theorem Lang.ofJson?_toJson (l : Lang) : Lang.ofJson? l.toJson = some l := by
  cases l <;> rfl

theorem Options.ofJson?_toJson (o : Options) : Options.ofJson? o.toJson = some o := by
  have htitle := optional?_ofOption .str string? (by simp) (fun _ => rfl) o.title
  have hauthors := optional?_ofOption ofStrings strings? (by simp [ofStrings]) strings?_ofStrings
    o.authors
  have hstyle := optional?_ofOption .str string? (by simp) (fun _ => rfl) o.style
  have hlang := optional?_ofOption Lang.toJson Lang.ofJson? (by simp [Lang.toJson])
    Lang.ofJson?_toJson o.lang
  simp [toJson, ofJson?, record?, Fields.get?, List.lookup_cons, htitle, hauthors, hstyle, hlang]

theorem Template.ofJson?_toJson (t : Template) : Template.ofJson? t.toJson = some t := by
  simp [toJson, ofJson?, record?, Fields.string?, Fields.read?, Fields.get?, List.lookup_cons,
    Json.string?]

theorem TemplateRegistry.ofJson?_toJson (r : TemplateRegistry) :
    TemplateRegistry.ofJson? r.toJson = some r := by
  have htemplates := listOf?_map Template.toJson Template.ofJson? Template.ofJson?_toJson
    r.templates
  simp [toJson, ofJson?, record?, Fields.string?, Fields.read?, Fields.get?, List.lookup_cons,
    htemplates, Json.string?]

namespace Compile

/-! ## Requests and answers -/

theorem PathMap.ofList_entries {α : Type} (m : PathMap α) : PathMap.ofList m.entries = m :=
  m.overlay_empty_left

theorem PathMap.eq_empty_of_isEmpty {α : Type} {m : PathMap α} (h : m.isEmpty) : m = ∅ := by
  rw [PathMap.isEmpty, List.isEmpty_iff] at h
  exact PathMap.ext h

theorem Assets.ofJson?_toJson (a : Assets) : Assets.ofJson? a.toJson = some a := by
  have hentry : ∀ e : String × List UInt8, entry? (e.1, ofBytes e.2) = some e := by
    intro e
    rw [ entry?, bytes?_ofBytes]
    rfl
  rw [toJson, ofJson?, mapM_map _ _ hentry, Option.map_some, PathMap.ofList_entries]

/-- A request is read back, also where it has no assets and none are written. -/
theorem Request.ofJson?_toJson (r : Request) : Request.ofJson? r.toJson = some r := by
  obtain ⟨id, main, assets⟩ := r
  by_cases h : assets.isEmpty
  · obtain rfl : assets = ∅ := PathMap.eq_empty_of_isEmpty h
    simp [toJson, ofJson?, h, record?, Fields.string?, Fields.read?, Fields.get?, List.lookup_cons,
      Json.string?]
  · simp [toJson, ofJson?, h, record?, Fields.string?, Fields.read?, Fields.get?, List.lookup_cons,
      Assets.ofJson?_toJson, Json.string?]

theorem Outcome.ofJson?_toJson (o : Outcome) : Outcome.ofJson? o.toJson = some o := by
  cases o with
  | ok pdf diagnostics =>
    simp [toJson, ofJson?, variant?, Variants.tag?, Fields.read?, Fields.get?, List.lookup_cons,
      bytes?_ofBytes, strings?_ofStrings]
  | err error diagnostics =>
    simp [toJson, ofJson?, variant?, Variants.tag?, Fields.string?, Fields.read?, Fields.get?,
      List.lookup_cons, strings?_ofStrings, Json.string?]

theorem Response.ofJson?_toJson (r : Response) : Response.ofJson? r.toJson = some r := by
  simp [toJson, ofJson?, record?, Fields.string?, Fields.read?, Fields.get?, List.lookup_cons,
    Outcome.ofJson?_toJson, Json.string?]

/-! ## What is sent of an outcome -/

theorem Outcome.ofResult_toResult (o : Outcome) : Outcome.ofResult o.toResult = o := by
  cases o <;> rfl

/-- **Messages lose nothing.** Every request, answer, choice of options and registry is read back
from its JSON form. An answer that is taken for a result is sent again as it was. A document or a
compiler's failure comes back as it was sent, any other failure as a compiler's, with its text and
no diagnostics; and what came back comes back again. -/
theorem messages_lose_nothing :
    (∀ r : Request, Request.ofJson? r.toJson = some r) ∧
    (∀ r : Response, Response.ofJson? r.toJson = some r) ∧
    (∀ o : Options, Options.ofJson? o.toJson = some o) ∧
    (∀ r : TemplateRegistry, TemplateRegistry.ofJson? r.toJson = some r) ∧
    (∀ r : Response, Outcome.ofResult r.outcome.toResult = r.outcome) ∧
    ∀ result : Except Error Pdf,
      let back := (Outcome.ofResult result).toResult
      (match result with
        | .ok _ | .error (.failed _ _) => back = result
        | .error e => back = .error (.failed e.message []) ∧ e.diagnostics = []) ∧
      (Outcome.ofResult back).toResult = back := by
  refine ⟨Request.ofJson?_toJson, Response.ofJson?_toJson, Options.ofJson?_toJson,
    TemplateRegistry.ofJson?_toJson, fun r => r.outcome.ofResult_toResult, ?_⟩
  intro result back
  constructor
  · cases result with
    | ok pdf => rfl
    | error e =>
      cases e with
      | failed message diagnostics => rfl
      | setup reason => exact ⟨rfl, rfl⟩
      | workerTerminated => exact ⟨rfl, rfl⟩
  · rw [Outcome.ofResult_toResult]

end Compile

end Typeset
