import GbCycle.Cartridge.Classify
import GbCycle.Cartridge.Memory

/-!
# Validating a cartridge

A validator goes through the header and the size of the image.  It rejects what its mapper
cannot run; what is only unusual it lets the policy judge, which may reject it, note it or pass
it.  The diagnostics noted so far go along, also into a rejection.
-/

namespace GbCycle

inductive CartridgeDiagnosticSeverity where
  | warning
  | error
  deriving Repr, DecidableEq

structure CartridgeDiagnostic where
  severity : CartridgeDiagnosticSeverity
  message : String
  deriving Repr, DecidableEq

inductive CartridgeLoadError where
  | headerParse (error : CartridgeHeaderParseError)
  | rejected (classification : CartridgeClassification) (executionMode : ExecutionMode)
      (reason : String) (diagnostics : List CartridgeDiagnostic)
  deriving Repr, DecidableEq

/-! ## Texts -/

def hexDigit (digit : Nat) : Char := "0123456789ABCDEF".toList.getD digit '0'

/-- `{:#04X}`. -/
def hexCode (code : U8) : String :=
  "0x" ++ String.ofList [hexDigit (code.toNat / 16), hexDigit (code.toNat % 16)]

/-- `{:?}` of an optional size. -/
def debugSize : Option Nat → String
  | none => "None"
  | some size => s!"Some({size})"

/-- `{:?}` of the flag. -/
def CgbFlag.debug : CgbFlag → String
  | .none => "None"
  | .supported => "Supported"
  | .only => "Only"
  | .supportedNonCanonical raw => s!"SupportedNonCanonical({raw.toNat})"
  | .unknown raw => s!"Unknown({raw.toNat})"

/-! ## Validators -/

abbrev Validation (α : Type) := List CartridgeDiagnostic →
  Except CartridgeLoadError (α × List CartridgeDiagnostic)

namespace Validation

def pure {α : Type} (a : α) : Validation α := fun diagnostics => .ok (a, diagnostics)

def bind {α β : Type} (m : Validation α) (f : α → Validation β) : Validation β :=
  fun diagnostics =>
    match m diagnostics with
    | .error error => .error error
    | .ok (a, diagnostics) => f a diagnostics

instance : Monad Validation where
  pure := pure
  bind := bind

theorem pure_ok {α : Type} {a b : α} {before after : List CartridgeDiagnostic} :
    (Pure.pure a : Validation α) before = .ok (b, after) ↔ a = b ∧ before = after := by
  constructor
  · intro h
    cases h
    exact ⟨rfl, rfl⟩
  · rintro ⟨rfl, rfl⟩
    rfl

theorem bind_ok {α β : Type} {m : Validation α} {f : α → Validation β}
    {before : List CartridgeDiagnostic} {result : β × List CartridgeDiagnostic} :
    (m >>= f) before = .ok result ↔
      ∃ a between, m before = .ok (a, between) ∧ f a between = .ok result := by
  show bind m f before = .ok result ↔ _
  unfold bind
  cases m before with
  | error error =>
      constructor
      · intro h
        cases h
      · rintro ⟨_, _, h, _⟩
        cases h
  | ok after =>
      obtain ⟨a, between⟩ := after
      constructor
      · intro h
        exact ⟨a, between, rfl, h⟩
      · rintro ⟨_, _, h, hrest⟩
        cases h
        exact hrest

/-- A value that is made from an accepted one. -/
theorem bind_pure_ok {α β : Type} {m : Validation α} {f : α → β} {b : β}
    {before after : List CartridgeDiagnostic}
    (h : (m >>= fun a => Pure.pure (f a)) before = .ok (b, after)) :
    ∃ a, m before = .ok (a, after) ∧ f a = b := by
  obtain ⟨a, diagnostics, ha, hb⟩ := bind_ok.mp h
  obtain ⟨rfl, rfl⟩ := pure_ok.mp hb
  exact ⟨a, ha, rfl⟩

end Validation

structure ValidationContext where
  compatibility : CompatibilityPolicy
  classification : CartridgeClassification

namespace ValidationContext

variable (ctx : ValidationContext)

def name : String := ctx.classification.detectedName

def reject {α : Type} (reason : String) : Validation α := fun diagnostics =>
  .error (.rejected ctx.classification ctx.compatibility.executionMode reason diagnostics)

def warning (message : String) : Validation Unit := fun diagnostics =>
  .ok ((), diagnostics ++ [{ severity := .warning, message }])

def checkDegradable (message : String) : Validation Unit :=
  match ctx.compatibility.validationPolicy with
  | .strict => ctx.reject message
  | .warn => warning message
  | .ignore => pure ()

def rejectIf (p : Prop) [Decidable p] (reason : String) : Validation Unit :=
  if p then ctx.reject reason else pure ()

def degradeIf (p : Prop) [Decidable p] (message : String) : Validation Unit :=
  if p then ctx.checkDegradable message else pure ()

/-- `let Some(value) = size else { return Err(..) }`. -/
def require (size : Option Nat) (reason : String) : Validation Nat :=
  match size with
  | some size => pure size
  | none => ctx.reject reason

/-- The first two checks of most mappers: the header declares a size, and the image has it. -/
def declaredRomBytes (header : CartridgeHeader) (actualRomSize : Nat) : Validation Nat := do
  let declaredRomBytes ← ctx.require header.romSize.decodedBytes
    s!"{ctx.name} declared an unsupported ROM size code {hexCode header.romSize.rawCode}"
  ctx.rejectIf (actualRomSize ≠ declaredRomBytes)
    s!"{ctx.name} expects a {declaredRomBytes}-byte image, but the loaded ROM is {actualRomSize} bytes"
  return declaredRomBytes

/-! ## What an accepted check means -/

variable {ctx} {before after : List CartridgeDiagnostic} {u : Unit}

theorem reject_ok {α : Type} {reason : String} {a : α} :
    ctx.reject reason before = .ok (a, after) ↔ False := by
  constructor
  · intro h
    cases h
  · exact False.elim

theorem rejectIf_ok {p : Prop} [Decidable p] {reason : String} :
    ctx.rejectIf p reason before = .ok (u, after) ↔ ¬ p ∧ before = after := by
  unfold rejectIf
  split
  · rename_i hp
    constructor
    · intro h
      exact (reject_ok.mp h).elim
    · rintro ⟨hnot, _⟩
      exact absurd hp hnot
  · rename_i hp
    exact Validation.pure_ok.trans ⟨fun h => ⟨hp, h.2⟩, fun h => ⟨rfl, h.2⟩⟩

/-- Only what is usual passes a strict policy. -/
theorem degradeIf_strict {p : Prop} [Decidable p] {message : String}
    (hstrict : ctx.compatibility.validationPolicy = .strict)
    (h : ctx.degradeIf p message before = .ok (u, after)) : ¬ p := by
  intro hp
  rw [degradeIf, if_pos hp, checkDegradable, hstrict] at h
  cases h

theorem require_ok {size : Option Nat} {reason : String} {value : Nat} :
    ctx.require size reason before = .ok (value, after) ↔ size = some value ∧ before = after := by
  cases size with
  | none =>
      constructor
      · intro h
        exact (reject_ok.mp h).elim
      · rintro ⟨h, _⟩
        cases h
  | some size =>
      exact Validation.pure_ok.trans
        ⟨fun h => ⟨congrArg some h.1, h.2⟩, fun h => ⟨Option.some.inj h.1, h.2⟩⟩

theorem declaredRomBytes_ok {header : CartridgeHeader} {actualRomSize declared : Nat}
    (h : ctx.declaredRomBytes header actualRomSize before = .ok (declared, after)) :
    header.romSize.decodedBytes = some actualRomSize ∧ declared = actualRomSize := by
  obtain ⟨bytes, _, hbytes, h⟩ := Validation.bind_ok.mp h
  obtain ⟨_, _, hexact, h⟩ := Validation.bind_ok.mp h
  obtain ⟨hbytes, _⟩ := require_ok.mp hbytes
  have hexact : actualRomSize = bytes := not_not.mp (rejectIf_ok.mp hexact).1
  obtain ⟨hdeclared, _⟩ := Validation.pure_ok.mp h
  exact ⟨hexact ▸ hbytes, hdeclared ▸ hexact.symm⟩

end ValidationContext

end GbCycle
