import AgentMate.Json
import AgentMate.PlainText
import AgentMate.Table

/-!
# E-mail deliveries

The rows of `email_deliveries` for one channel, with the statements on them, and what an SMTP
exchange tells the caller. The times of a row are left out, since nothing reads them.
-/

namespace AgentMate.EmailDeliveries

open PlainText

inductive DeliveryStatus where
  | pending | processing | retryable | replyReady | sending | sendRetryable | replied
  | deliveryUnknown | deliveryUnknownSeen | seen | ignored
  deriving DecidableEq, Repr

def DeliveryStatus.isAnswered : DeliveryStatus → Bool
  | .pending | .processing | .retryable | .ignored => false
  | _ => true

def DeliveryStatus.isSpent : DeliveryStatus → Bool
  | .sending | .replied | .deliveryUnknown | .deliveryUnknownSeen | .seen => true
  | _ => false

def DeliveryStatus.isDone : DeliveryStatus → Bool
  | .replied | .deliveryUnknown | .deliveryUnknownSeen | .seen => true
  | _ => false

def DeliveryStatus.isUnknown : DeliveryStatus → Bool
  | .sending | .deliveryUnknown | .deliveryUnknownSeen => true
  | _ => false

def DeliveryStatus.isReady : DeliveryStatus → Bool
  | .replyReady | .sendRetryable => true
  | _ => false

structure EmailDelivery where
  messageKey : String
  messageId : String
  fromAddr : String
  subject : String
  uidValidity : String
  imapUid : String
  status : DeliveryStatus
  reply : String
  outboundMessageId : String
  attempts : Nat
  lastError : String
  deriving DecidableEq, Repr

/-- What `fetch_unseen` reads of a message; its key is a digest in hexadecimal. -/
structure Mail where
  messageKey : String
  messageId : String
  fromAddr : String
  subject : String
  body : String
  uidValidity : String
  imapUid : String
  ignoreReason : String
  deriving DecidableEq, Repr

def getEmailDelivery (rows : List EmailDelivery) (messageKey : String) : Option EmailDelivery :=
  Table.lookup EmailDelivery.messageKey messageKey rows

def Mail.delivery (mail : Mail) : EmailDelivery where
  messageKey := mail.messageKey
  messageId := mail.messageId
  fromAddr := mail.fromAddr
  subject := mail.subject
  uidValidity := mail.uidValidity
  imapUid := mail.imapUid
  status := .pending
  reply := ""
  outboundMessageId := ""
  attempts := 0
  lastError := ""

/-- The part of `observe_email_delivery` for a message that has a row. -/
def EmailDelivery.observed (mail : Mail) (row : EmailDelivery) : EmailDelivery :=
  { row with
    messageId := mail.messageId, uidValidity := mail.uidValidity, imapUid := mail.imapUid }

def observeEmailDelivery (rows : List EmailDelivery) (mail : Mail) : List EmailDelivery :=
  if (getEmailDelivery rows mail.messageKey).isSome then
    Table.updateWhere (fun row => row.messageKey = mail.messageKey) (EmailDelivery.observed mail)
      rows
  else rows ++ [mail.delivery]

def EmailDelivery.claimed (row : EmailDelivery) : EmailDelivery :=
  { row with status := .processing, attempts := row.attempts + 1, lastError := "" }

/-- `claim_email_delivery`; `none` is a row count of zero. -/
def claimEmailDelivery (rows : List EmailDelivery) (messageKey : String) :
    Option (List EmailDelivery) :=
  if rows.any (fun row => row.messageKey = messageKey ∧
      (row.status = .pending ∨ row.status = .retryable)) then
    some (Table.updateWhere (fun row => row.messageKey = messageKey ∧
      (row.status = .pending ∨ row.status = .retryable)) EmailDelivery.claimed rows)
  else none

/-- The columns that `update_email_delivery` is given. -/
structure DeliveryUpdate where
  status : DeliveryStatus
  reply : Option String
  outboundMessageId : Option String
  error : String

def EmailDelivery.updated (update : DeliveryUpdate) (row : EmailDelivery) : EmailDelivery :=
  { row with
    status := update.status
    reply := update.reply.getD row.reply
    outboundMessageId := update.outboundMessageId.getD row.outboundMessageId
    lastError := clip 500 update.error }

/-- `update_email_delivery`; `none` is the `KeyError`. -/
def updateEmailDelivery (rows : List EmailDelivery) (messageKey : String)
    (update : DeliveryUpdate) : Option (List EmailDelivery × EmailDelivery) :=
  (getEmailDelivery rows messageKey).map fun row =>
    (Table.updateWhere (fun row => row.messageKey = messageKey) (EmailDelivery.updated update)
      rows, row.updated update)

def EmailDelivery.recovered (row : EmailDelivery) : EmailDelivery :=
  match row.status with
  | .processing => { row with
      status := .retryable, lastError := "poller restarted during agent processing" }
  | .sending => { row with
      status := .deliveryUnknown
      lastError := "poller restarted while SMTP result was unknown" }
  | _ => row

def recoverEmailDeliveries (rows : List EmailDelivery) : List EmailDelivery :=
  rows.map EmailDelivery.recovered

inductive SmtpErrorKind where
  | authentication | recipientsRefused | data | disconnected | timeout | os | other
  deriving DecidableEq, Repr

def SmtpErrorKind.isRefusal : SmtpErrorKind → Bool
  | .authentication | .recipientsRefused | .data => true
  | _ => false

structure SmtpError where
  kind : SmtpErrorKind
  text : String
  deriving DecidableEq, Repr

inductive SmtpStage where
  | connect | authenticate | send | accepted
  deriving DecidableEq, Repr

inductive SendStatus where
  | sent | retryable | unknown
  deriving DecidableEq, Repr

/-- What the library does in one exchange, and whether the server takes the message. `sendmail`
gives the refused recipients; it raises `SMTPDataError` and `SMTPRecipientsRefused` only when the
server refused the message, and leaving the block says `QUIT`, which raises neither. -/
structure SmtpSession where
  connect : Option SmtpError
  login : Option SmtpError
  sendmail : Except SmtpError (List String)
  quit : Option SmtpError
  accepts : Bool
  quitKind : ∀ error ∈ quit, error.kind.isRefusal = false
  delivered : accepts = true → connect = none ∧ login = none ∧
    (sendmail = .ok [] ∨ ∃ error, sendmail = .error error ∧ error.kind.isRefusal = false)

/-- The handlers of `send_reply_delivery`. -/
def smtpFailure (stage : SmtpStage) (error : SmtpError) : SendStatus × String :=
  if error.kind.isRefusal then (.retryable, "SMTP 明确拒绝：" ++ error.text)
  else if stage = .send ∨ stage = .accepted then
    (.unknown, "SMTP 发送结果未知（不自动重发）：" ++ error.text)
  else if error.kind = .other then (.retryable, "SMTP 发送失败：" ++ error.text)
  else (.retryable, "SMTP 连接/鉴权失败：" ++ error.text)

/-- An error in the block, or the one that leaving the block raises in its place. -/
def SmtpSession.failed (session : SmtpSession) (stage : SmtpStage) (error : SmtpError) :
    SendStatus × String :=
  smtpFailure stage (session.quit.getD error)

def sendReplyDelivery (recipient : String) (session : SmtpSession) : SendStatus × String :=
  match session.connect with
  | some error => smtpFailure .connect error
  | none =>
    match session.login with
    | some error => session.failed .authenticate error
    | none =>
      match session.sendmail with
      | .error error => session.failed .send error
      | .ok [] =>
        match session.quit with
        | some error => smtpFailure .accepted error
        | none => (.sent, "已发送。")
      | .ok _ =>
        match session.quit with
        | some error => smtpFailure .send error
        | none => (.retryable, "SMTP 收件人被拒绝：" ++ recipient)

theorem failure_after_send {stage : SmtpStage} {error : SmtpError}
    (late : stage = .send ∨ stage = .accepted) (open' : error.kind.isRefusal = false) :
    (smtpFailure stage error).1 = .unknown := by
  rw [smtpFailure, if_neg (by simp [open']), if_pos late]

theorem retryable_not_accepted {recipient : String} {session : SmtpSession}
    (retryable : (sendReplyDelivery recipient session).1 = .retryable) : session.accepts = false := by
  cases accepted : session.accepts with
  | false => rfl
  | true =>
    obtain ⟨connected, loggedIn, sent⟩ := session.delivered accepted
    rw [sendReplyDelivery, connected, loggedIn] at retryable
    dsimp only at retryable
    rcases sent with sent | ⟨error, sent, open'⟩
    · rw [sent] at retryable
      dsimp only at retryable
      cases left : session.quit with
      | none =>
        rw [left] at retryable
        cases retryable
      | some error =>
        rw [left] at retryable
        dsimp only at retryable
        have kind := session.quitKind error left
        rw [failure_after_send (.inr rfl) kind] at retryable
        cases retryable
    · rw [sent] at retryable
      dsimp only at retryable
      have kind : (session.quit.getD error).kind.isRefusal = false := by
        cases left : session.quit with
        | none => exact open'
        | some other => exact session.quitKind other left
      rw [SmtpSession.failed, failure_after_send (.inl rfl) kind] at retryable
      cases retryable

end AgentMate.EmailDeliveries
