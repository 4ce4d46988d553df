/-
Warnings, and values that come with them.

A step may look at the value of the step before it, and its warnings follow
those of that step. Nothing else passes from one step to the next.
-/

namespace Typeset

/-- What rendering dropped or replaced instead of failing. -/
inductive Warning where
  /-- A note reference without a definition, dropped. -/
  | unresolvedFootnote (identifier : String)
  /-- A reference to a note from inside its own body, dropped. -/
  | recursiveFootnote (identifier : String)
  /-- A link reference without a definition, written as text. -/
  | unresolvedLink (identifier : String)
  /-- A style that no template has; the default style stood in. -/
  | unknownStyle (style : String)
  deriving DecidableEq

namespace Warning

/-- The text that is shown for a warning. -/
def message : Warning → String
  | .unresolvedFootnote identifier => "footnote '" ++ identifier ++ "' has no definition"
  | .recursiveFootnote identifier => "footnote '" ++ identifier ++ "' references itself"
  | .unresolvedLink identifier => "link reference '" ++ identifier ++ "' has no definition"
  | .unknownStyle style => "unknown style '" ++ style ++ "', using default template"

end Warning

/-- Steps that can warn. -/
class MonadWarn (m : Type → Type) where
  warn : Warning → m Unit

/-- A value and the warnings that arose while it was made, in order. -/
structure Logged (α : Type) where
  value : α
  warnings : List Warning := []

namespace Logged

variable {α β : Type}

@[ext] theorem ext {x y : Logged α} (hv : x.value = y.value) (hw : x.warnings = y.warnings) :
    x = y := by
  cases x; cases y; simp_all

instance : Monad Logged where
  pure a := ⟨a, []⟩
  bind x f := ⟨(f x.value).value, x.warnings ++ (f x.value).warnings⟩

/-- A step that only warns. -/
def warn (w : Warning) : Logged Unit := ⟨(), [w]⟩

instance : MonadWarn Logged := ⟨warn⟩

@[simp] theorem monadWarn_warn (w : Warning) : (MonadWarn.warn w : Logged Unit) = warn w := rfl

@[simp] theorem value_pure (a : α) : (pure a : Logged α).value = a := rfl
@[simp] theorem warnings_pure (a : α) : (pure a : Logged α).warnings = [] := rfl
@[simp] theorem value_bind (x : Logged α) (f : α → Logged β) :
    (x >>= f).value = (f x.value).value := rfl
@[simp] theorem warnings_bind (x : Logged α) (f : α → Logged β) :
    (x >>= f).warnings = x.warnings ++ (f x.value).warnings := rfl
@[simp] theorem warnings_warn (w : Warning) : (warn w).warnings = [w] := rfl

instance : LawfulMonad Logged := LawfulMonad.mk' Logged
  (fun x => by apply Logged.ext <;> simp [Functor.map])
  (fun a f => by apply Logged.ext <;> simp)
  (fun x f g => by apply Logged.ext <;> simp)

@[simp] theorem value_map (f : α → β) (x : Logged α) : (f <$> x).value = f x.value := rfl
@[simp] theorem warnings_map (f : α → β) (x : Logged α) : (f <$> x).warnings = x.warnings :=
  List.append_nil _

end Logged

end Typeset
