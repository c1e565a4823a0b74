import SmartLock.Effects.Dependence
import SmartLock.Zigbee.Firmware

/-! # Statuses that nobody checks

Of its six operations, the four members of `Lock` and the two start-up calls, the Zigbee component
looks at the status of the last two. No failure of the UART or of the lock changes what it asks for.

* **`looksOnlyAt_init`, `looksOnlyAt_program`** — what start-up and the entries look at.
* **`firmwareCalls`** — the operations from power-on, in order.
* **`firmwareCalls_eq_of_checked`** — two runs over the same entries ask for the same operations on
  any two boards that answer the two checked calls alike. -/

namespace SmartLock

open Effects

/-- The operations whose status is checked. -/
def ZigbeeOp.Checked : ZigbeeOp → Prop
  | .nvsFlashInit => True
  | .espZbPlatformConfig _ => True
  | _ => False

/-- Start-up looks at the two checked calls. -/
theorem looksOnlyAt_init : Zigbee.init.LooksOnlyAt ZigbeeOp.Checked := by
  have hnvs : ZigbeeOp.Checked .nvsFlashInit := trivial
  apply Program.looksOnlyAt_bind (Program.looksOnlyAt_perform _)
  intro _
  apply Program.looksOnlyAt_bind (Program.looksOnlyAt_perform _)
  intro _
  apply Program.looksOnlyAt_bind (Program.looksOnlyAt_perform _)
  intro _
  apply Program.looksOnlyAt_bind (Program.looksOnlyAt_call hnvs)
  intro _
  apply Program.looksOnlyAt_ite (Program.looksOnlyAt_pure _)
  apply Program.looksOnlyAt_bind (Program.looksOnlyAt_call trivial)
  intro _
  exact Program.looksOnlyAt_ite (Program.looksOnlyAt_pure _) (Program.looksOnlyAt_pure _)

/-- An entry looks at nothing. -/
theorem looksOnlyAt_program (call : ZigbeeCall) : call.program.LooksOnlyAt fun _ => False := by
  cases call with
  | actionHandler callbackId message =>
      rw [ZigbeeCall.program, actionHandler_eq]
      exact Program.looksOnlyAt_pure _
  | rawCommand buf =>
      refine Program.looksOnlyAt_bind ?_ fun _ => Program.looksOnlyAt_pure _
      rw [espZbZclRawCommandCallback_eq]
      split
      · exact Program.looksOnlyAt_bind (Program.looksOnlyAt_perform _) fun _ =>
          Program.looksOnlyAt_pure _
      · exact Program.looksOnlyAt_pure _

/-! ## Runs -/

/-- The operations a program asks for on the board `b`. -/
def Zb.callsOn {α : Type} (p : Zb α) (b : Board) : List ZigbeeOp :=
  p.calls (Program.induced lower b.answers p)

/-- The operations from power-on: those of the start-up on the board `b₀`, then those of the entries
`steps`, each on its own board. -/
def firmwareCalls (b₀ : Board) (steps : List (ZigbeeCall × Board)) : List ZigbeeOp :=
  Zb.callsOn Zigbee.init b₀ ++
    match Zigbee.init.onHardware.result b₀.answers with
    | .completed => steps.flatMap fun step => Zb.callsOn step.1.program step.2
    | .aborted => []

/-- What start-up learns of the checked calls is what the board answers to them. -/
theorem induced_checked {α : Type} (p : Zb α) (b b' : Board)
    (hnvs : b.nvsFlashInit = b'.nvsFlashInit)
    (hplatform : b.espZbPlatformConfig = b'.espZbPlatformConfig) :
    ∀ n op, ZigbeeOp.Checked op →
      Program.induced lower b.answers p n op = Program.induced lower b'.answers p n op := by
  intro n op hop
  obtain ⟨k, hk⟩ := Program.exists_induced_eq lower b.answers p n op
  obtain ⟨k', hk'⟩ := Program.exists_induced_eq lower b'.answers p n op
  rw [hk, hk']
  cases op with
  | nvsFlashInit => exact hnvs
  | espZbPlatformConfig config => exact hplatform
  | lockInit rxPin txPin => exact hop.elim
  | lockSetKey => exact hop.elim
  | lockOpen => exact hop.elim
  | lockTurnOffAutomaticLatch => exact hop.elim

/-- **No failure of the UART changes what the firmware does.** Two runs over the same entries ask
the lock and ESP-IDF for the same operations in the same order, on any hardware during any of the
entries, if `nvs_flash_init` and `esp_zb_platform_config` answer alike in start-up. -/
theorem firmwareCalls_eq_of_checked (b₀ b₀' : Board) (steps steps' : List (ZigbeeCall × Board))
    (hnvs : b₀.nvsFlashInit = b₀'.nvsFlashInit)
    (hplatform : b₀.espZbPlatformConfig = b₀'.espZbPlatformConfig)
    (hcalls : steps.map Prod.fst = steps'.map Prod.fst) :
    firmwareCalls b₀ steps = firmwareCalls b₀' steps' := by
  have hagree := induced_checked Zigbee.init b₀ b₀' hnvs hplatform
  have hinit : Zb.callsOn Zigbee.init b₀ = Zb.callsOn Zigbee.init b₀' :=
    Program.calls_eq_of_agree looksOnlyAt_init hagree
  have hresult : Zigbee.init.onHardware.result b₀.answers
      = Zigbee.init.onHardware.result b₀'.answers := by
    rw [Zb.onHardware, Program.result_handle, Program.result_handle]
    exact Program.result_eq_of_agree looksOnlyAt_init hagree
  -- what an entry asks for does not depend on its board, so it is a function of the entry
  have hentry (step : ZigbeeCall × Board) :
      Zb.callsOn step.1.program step.2 = Zb.callsOn step.1.program Board.accepting :=
    Program.calls_eq_of_agree (looksOnlyAt_program step.1) fun _ _ hop => hop.elim
  have hentries (steps : List (ZigbeeCall × Board)) :
      steps.flatMap (fun step => Zb.callsOn step.1.program step.2)
        = (steps.map Prod.fst).flatMap fun call => Zb.callsOn call.program Board.accepting := by
    rw [List.flatMap_map]
    exact List.flatMap_congr fun step _ => hentry step
  rw [firmwareCalls, firmwareCalls, hinit, hresult, hentries, hentries, hcalls]

/-- A board on which only the two checked calls work. -/
def Board.deaf : Board where
  err _ := espFail
  installed _ := false
  written _ _ := ⟨-1, by omega⟩
  nvsFlashInit := espOk
  espZbPlatformConfig := espOk

/-- A command all of whose bytes are one, so that the callback's test holds. -/
def onesCommand : ZigbeeCall :=
  .rawCommand { bytes := List.replicate 28 1, getTail := tailStart zbBufAllocAlign 28,
                tail_fits := by decide }

/-- A firmware whose UART is dead asks for the same as one on which everything works. -/
theorem firmwareCalls_deaf :
    firmwareCalls Board.deaf [(onesCommand, Board.deaf)]
      = firmwareCalls Board.accepting [(onesCommand, Board.accepting)] :=
  firmwareCalls_eq_of_checked Board.deaf Board.accepting [(onesCommand, Board.deaf)]
    [(onesCommand, Board.accepting)] rfl rfl rfl

end SmartLock
