/-
This file is about what an ioctl comes to. Three filters stand in front of the
handlers: magic and number of the command word, the switch over it, and the range
of the message's command against the table. The number is compared with a bound
that no number reaches and the switch falls through to a return of 0, so every
other command word of the magic is accepted silently; and the table has three
empty entries in its range.
-/

import DxDsp.Overlap

namespace DxDsp

/-! ### What is accepted -/

/-- The commands without an entry in the table. -/
def emptyCommands : List DxrtCmd := [.updateFirmware, .event, .uploadFirmware]

theorem messageHandler_eq_none_iff (cmd : DxrtCmd) :
    messageHandler cmd = none ↔ cmd ∈ emptyCommands := by
  cases cmd <;> decide

/-- The command of a message, if it is in the range of the table. -/
def DxrtMessage.command (msg : DxrtMessage) : Option DxrtCmd :=
  if 0 ≤ msg.cmd.toInt then dxrtCmds[msg.cmd.toInt.toNat]? else none

theorem DxrtMessage.command_eq_none_iff (msg : DxrtMessage) :
    msg.command = none ↔ ¬ (0 ≤ msg.cmd.toInt ∧ msg.cmd.toInt < dxrtCmdMax) := by
  have length : dxrtCmds.length = dxrtCmdMax := rfl
  rw [command]
  split
  · next nonnegative =>
    rw [List.getElem?_eq_none_iff, length]
    omega
  · next negative => exact iff_of_true rfl fun range => negative range.1

/-- Whoever can be copied is refused out of range, dies on an empty entry, or reaches a handler. -/
theorem ioctlMessage_of_command {msg : DxrtMessage} {own : DxrtCmd}
    (command : msg.command = some own) :
    ioctlMessage (.holds msg) =
      (messageHandler own).elim .oops fun handler => .handler handler msg := by
  have inRange : 0 ≤ msg.cmd.toInt ∧ msg.cmd.toInt < dxrtCmdMax := by
    by_contra outside
    rw [msg.command_eq_none_iff.mpr outside] at command
    cases command
  rw [DxrtMessage.command, if_pos inRange.1] at command
  rw [ioctlMessage, if_pos inRange, messageHandlerGeneral, command, Option.bind_some]
  cases messageHandler own <;> rfl

theorem ioctlMessage_of_none {msg : DxrtMessage} (outside : msg.command = none) :
    ioctlMessage (.holds msg) = .returns (-einval) := by
  rw [ioctlMessage, if_neg (msg.command_eq_none_iff.mp outside)]

theorem dxrtDevIoctl_message (arg : UserSource DxrtMessage) :
    dxrtDevIoctl dxrtIoctlMessage arg = ioctlMessage arg := by
  rw [dxrtDevIoctl, if_neg (by decide), if_pos rfl]

/-- The number of a command word is never refused, so any other word of the magic returns 0. -/
theorem dxrtDevIoctl_other {cmd : UInt32} (arg : UserSource DxrtMessage)
    (magic : iocType cmd = dxrtIoctlMagic) (other : cmd ≠ dxrtIoctlMessage) :
    dxrtDevIoctl cmd arg = .returns 0 := by
  have accepted : ¬ (iocType cmd ≠ dxrtIoctlMagic ∨ dxrtIoctlMax ≤ iocNr cmd) := by
    rintro (otherMagic | large)
    · exact otherMagic magic
    · exact absurd (iocNr_lt_dxrtIoctlMax cmd) (UInt32.not_lt.mpr large)
  rw [dxrtDevIoctl, if_neg accepted, if_neg other]

/-! ### Clean dispatch -/

variable {Client : Type} [DecidableEq Client]

/-- An ioctl is refused with a negative return and changes nothing, or it is a message and reaches
a handler of the table. -/
structure Dispatched (files : Files Client) (client : Client) (cmd : UInt32)
    (arg : UserSource DxrtMessage) : Prop where
  outcome :
    (∃ ret < 0, dxrtDevIoctl cmd arg = .returns ret ∧
      files.enterEntry client (dxrtDevIoctl cmd arg) = some files) ∨
    (cmd = dxrtIoctlMessage ∧ ∃ handler msg own, dxrtDevIoctl cmd arg = .handler handler msg ∧
      msg.command = some own ∧ messageHandler own = some handler)
  entry : dxrtDevIoctl cmd arg ≠ .oops
  implemented : cmd ≠ dxrtIoctlMessage → dxrtDevIoctl cmd arg ≠ .returns 0

theorem Dispatched.of_returns {files : Files Client} {client : Client} {cmd : UInt32}
    {arg : UserSource DxrtMessage} {ret : Int} (negative : ret < 0)
    (returns : dxrtDevIoctl cmd arg = .returns ret) : Dispatched files client cmd arg where
  outcome := Or.inl ⟨ret, negative, returns, by rw [returns, Files.enterEntry]⟩
  entry oops := by
    rw [returns] at oops
    cases oops
  implemented _ zero := by
    rw [returns] at zero
    cases zero
    exact absurd negative (by decide)

theorem Dispatched.of_handler {files : Files Client} {client : Client} {msg : DxrtMessage}
    {own : DxrtCmd} {handler : Handler} (command : msg.command = some own)
    (listed : messageHandler own = some handler) :
    Dispatched files client dxrtIoctlMessage (.holds msg) := by
  have reached : dxrtDevIoctl dxrtIoctlMessage (.holds msg) = .handler handler msg := by
    rw [dxrtDevIoctl_message, ioctlMessage_of_command command, listed]
    rfl
  refine ⟨Or.inr ⟨rfl, handler, msg, own, reached, command, listed⟩, ?_, fun other => ?_⟩
  · intro oops
    rw [reached] at oops
    cases oops
  · exact absurd rfl other

/-- Dispatch is clean for exactly the command words of another magic, and for messages that fault,
are out of range, or name a command with an entry. -/
theorem ioctl_dispatched_iff (files : Files Client) (client : Client) (cmd : UInt32)
    (arg : UserSource DxrtMessage) :
    Dispatched files client cmd arg ↔
      iocType cmd ≠ dxrtIoctlMagic ∨
        cmd = dxrtIoctlMessage ∧
          ∀ msg own, arg = .holds msg → msg.command = some own → own ∉ emptyCommands := by
  constructor
  · intro dispatched
    by_cases magic : iocType cmd = dxrtIoctlMagic
    · by_cases message : cmd = dxrtIoctlMessage
      · refine Or.inr ⟨message, ?_⟩
        rintro msg own rfl command empty
        have oops : dxrtDevIoctl cmd (.holds msg) = .oops := by
          rw [message, dxrtDevIoctl_message, ioctlMessage_of_command command,
            (messageHandler_eq_none_iff own).mpr empty]
          rfl
        exact dispatched.entry oops
      · exact absurd (dxrtDevIoctl_other arg magic message) (dispatched.implemented message)
    · exact Or.inl magic
  · have invalid : -einval < 0 := by decide
    have faulted : -efault < 0 := by decide
    rintro (otherMagic | ⟨rfl, entries⟩)
    · refine .of_returns invalid ?_
      rw [dxrtDevIoctl, if_pos (Or.inl otherMagic)]
    · cases arg with
      | null | fault => exact .of_returns faulted (dxrtDevIoctl_message _)
      | holds msg =>
        cases command : msg.command with
        | none =>
          refine .of_returns invalid ?_
          rw [dxrtDevIoctl_message, ioctlMessage_of_none command]
        | some own =>
          cases listed : messageHandler own with
          | none =>
            exact absurd ((messageHandler_eq_none_iff own).mp listed) (entries msg own rfl command)
          | some handler => exact .of_handler command listed

/-- A message whose data pointer is NULL. -/
def bareMessage (cmd : Int32) : DxrtMessage where
  cmd := cmd
  subCmd := 0
  data :=
    { request := .null
      reqMeminfo := .null
      meminfo := .null
      bufferMetadata := .null
      target := .null
      transfer := {} }

/-- `DXRT_IOCTL_DUMMY` returns 0 without doing anything, and a message with the number of
UPDATE_FIRMWARE calls through an empty entry. -/
theorem ioctl_not_dispatched :
    dxrtDevIoctl dxrtIoctlDummy .null = .returns 0 ∧
      dxrtDevIoctl dxrtIoctlMessage (.holds (bareMessage 4)) = .oops ∧
      ¬ ∀ (files : Files (Fin 1)) (client : Fin 1) (cmd : UInt32) (arg : UserSource DxrtMessage),
        Dispatched files client cmd arg := by
  have silent : dxrtDevIoctl dxrtIoctlDummy .null = .returns 0 :=
    dxrtDevIoctl_other _ (by decide) (by decide)
  refine ⟨silent, ?_, fun dispatched => ?_⟩
  · have command : (bareMessage 4).command = some .updateFirmware := rfl
    rw [dxrtDevIoctl_message, ioctlMessage_of_command command]
    rfl
  · let probed : Files (Fin 1) := { driver := .initial boardDsp, pool := dxV3DspBufInit }
    exact (dispatched probed 0 dxrtIoctlDummy .null).implemented (by decide) silent

end DxDsp
