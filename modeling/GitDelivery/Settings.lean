import GitDelivery.Json.Basic
import GitDelivery.Text.Basic

set_option autoImplicit false

/-! The settings of the controller. Each has a default and can be given as text under a name; a text
that is not a number of the right size leaves the default. -/

namespace GitDelivery

structure Settings where
  gitRoot : String
  gitBinary : String
  kustomizeBinary : String
  forcedResyncTicks : Nat
  hookHistoryLimit : Nat
  hookPollSeconds : Nat
  resyncSeconds : Nat
  messageLimit : Nat
  backoffLeast : Nat
  backoffMost : Nat
  logLevel : String
  logFormat : String
  deriving DecidableEq

namespace Settings

def standard : Settings :=
  { gitRoot := "/tmp/appsub-git"
    gitBinary := "git"
    kustomizeBinary := "kustomize"
    forcedResyncTicks := 6
    hookHistoryLimit := 5
    hookPollSeconds := 30
    resyncSeconds := 300
    messageLimit := 2000
    backoffLeast := 5
    backoffMost := 300
    logLevel := "INFO"
    logFormat := "text" }

private def digitsValue? : List Char → Option Nat
  | [] => none
  | digits =>
    if digits.all Char.isDigit then
      some (digits.foldl (fun total c => 10 * total + (c.toNat - '0'.toNat)) 0)
    else none

/-- A number of the given width in bits: decimal digits after an optional plus sign. -/
def natural? (bits : Nat) (text : String) : Option Nat :=
  let value :=
    match text.toList with
    | '+' :: digits => digitsValue? digits
    | digits => digitsValue? digits
  value.filter (· < Nat.pow 2 bits)

/-- The settings that named texts give. Forcing a resync on every tick is the most that can be
asked for. -/
def ofTexts (given : Table String) : Settings :=
  let text (name default : String) : String := (Table.get? name given).getD default
  let number (name : String) (bits default : Nat) : Nat :=
    ((Table.get? name given).bind (natural? bits)).getD default
  { gitRoot := text "GIT_ROOT_PATH" standard.gitRoot
    gitBinary := text "GIT_BINARY" standard.gitBinary
    kustomizeBinary := text "KUSTOMIZE_BINARY" standard.kustomizeBinary
    forcedResyncTicks := max 1 (number "FORCED_RESYNC_TICKS" 32 standard.forcedResyncTicks)
    hookHistoryLimit := number "HOOK_HISTORY_LIMIT" 64 standard.hookHistoryLimit
    hookPollSeconds := number "HOOK_POLL_INTERVAL_SECS" 64 standard.hookPollSeconds
    resyncSeconds := number "RESYNC_INTERVAL_SECS" 64 standard.resyncSeconds
    messageLimit := number "STATUS_MESSAGE_MAX_LEN" 64 standard.messageLimit
    backoffLeast := number "BACKOFF_MIN_SECS" 64 standard.backoffLeast
    backoffMost := number "BACKOFF_MAX_SECS" 64 standard.backoffMost
    logLevel := text "LOG_LEVEL" standard.logLevel
    logFormat := text "LOG_FORMAT" standard.logFormat }

def toJson (settings : Settings) : Json :=
  .ofFields [
    ("git_root", .text settings.gitRoot), ("git_binary", .text settings.gitBinary),
    ("kustomize_binary", .text settings.kustomizeBinary),
    ("forced_resync_ticks", .ofNat settings.forcedResyncTicks),
    ("hook_history_limit", .ofNat settings.hookHistoryLimit),
    ("hook_poll_interval_secs", .ofNat settings.hookPollSeconds),
    ("resync_interval_secs", .ofNat settings.resyncSeconds),
    ("status_message_max_len", .ofNat settings.messageLimit),
    ("backoff_min_secs", .ofNat settings.backoffLeast),
    ("backoff_max_secs", .ofNat settings.backoffMost),
    ("log_level", .text settings.logLevel), ("log_format", .text settings.logFormat)]

end Settings

end GitDelivery
