import Mathlib.Data.Vector.Basic

/-!
# Control sessions

`control_session::State`: one session at a time, named by a random token, and the
caches that answer exact retries. Requests are compared as the bytes that arrived,
so the state is generic in the type of these bytes and of the responses.
-/

namespace HidBot.ControlSession

def tokenHexLength : Nat := 32
def maxRequestBytes : Nat := 504
def leaseMilliseconds : Nat := 5000
def leaseMicroseconds : UInt64 := 5000000

abbrev Token := String
abbrev AuthorityEpoch := UInt32
abbrev LocalOwnerId := UInt64
abbrev Digest := Vector UInt8 32

def isLowerHex (character : Char) : Bool :=
  ('0' ≤ character && character ≤ '9') || ('a' ≤ character && character ≤ 'f')

def isLowerHexToken (value : String) : Bool :=
  value.length == tokenHexLength && value.toList.all isLowerHex

def hexDigit (value : Nat) : Char := "0123456789abcdef".toList.getD value '0'

/-- `generate_token` from the random bytes it was given. -/
def generateToken (randomBytes : Vector UInt8 16) : Token :=
  String.ofList (randomBytes.toList.flatMap fun byte =>
    [hexDigit (byte.toNat / 16), hexDigit (byte.toNat % 16)])

inductive HelloCacheResult (Response : Type) where
  | newClient
  | exactRetry (response : Response)
  | nonceConflict

inductive RequestCacheResult (Response : Type) where
  | acceptNew
  | exactRetry (response : Response)
  | idConflict
  | idStale
  | sessionMismatch

structure HelloCache (Payload Response : Type) where
  clientNonce : Token
  request : Payload
  authorityEpoch : AuthorityEpoch
  response : Response

/-- A secret request is remembered by its length and digest only. -/
inductive RequestIdentity (Payload : Type) where
  | raw (request : Payload)
  | sensitive (length : Nat) (digest : Digest)
  deriving DecidableEq

structure RequestCache (Payload Response : Type) where
  id : Int
  identity : RequestIdentity Payload
  authorityEpoch : AuthorityEpoch
  response : Response

structure TransitionRetryCache (Payload Response : Type) where
  id : Int
  session : Token
  request : Payload
  response : Response

/-- One storage holds either the last completed request or an accepted transition. -/
inductive RetryCache (Payload Response : Type) where
  | normal (cache : Option (RequestCache Payload Response))
  | transition (cache : TransitionRetryCache Payload Response)

structure State (Payload Response : Type) where
  bootId : Token
  currentSession : Token := ""
  activeSession : Bool := false
  retryCache : RetryCache Payload Response := .normal none
  sessionAuthorityEpoch : AuthorityEpoch := 0
  localOwnerId : LocalOwnerId := 0
  nextLocalOwnerId : LocalOwnerId := 1
  leaseDeadlineUs : UInt64 := 0
  helloCache : Option (HelloCache Payload Response) := none

variable {Payload Response : Type} [DecidableEq Payload]

def sameToken (cached value : Token) : Bool := value.length == tokenHexLength && cached == value

/-! ### Caches -/

/-- `clear_normal_cache`: a transition stays. -/
def RetryCache.clearNormal : RetryCache Payload Response → RetryCache Payload Response
  | .normal _ => .normal none
  | .transition cache => .transition cache

/-- `clear_transition_retry`: a completed request stays. -/
def RetryCache.clearTransition : RetryCache Payload Response → RetryCache Payload Response
  | .normal cache => .normal cache
  | .transition _ => .normal none

namespace State

variable (state : State Payload Response)

def clearNormalCache : State Payload Response :=
  { state with retryCache := state.retryCache.clearNormal }

def clearTransitionRetry : State Payload Response :=
  { state with retryCache := state.retryCache.clearTransition }

def clearHelloCache : State Payload Response := { state with helloCache := none }

/-- `initialize` with the random bytes of the boot token. -/
def initialized (bootBytes : Vector UInt8 16) : State Payload Response :=
  { bootId := generateToken bootBytes }

def authorityEpochMatches (currentEpoch : AuthorityEpoch) : Bool :=
  state.activeSession && state.sessionAuthorityEpoch == currentEpoch

def clearAuthority : State Payload Response :=
  clearHelloCache (clearNormalCache { state with
    activeSession := false
    currentSession := ""
    sessionAuthorityEpoch := 0
    localOwnerId := 0
    leaseDeadlineUs := 0 })

def revokeForTakeover : State Payload Response := state.clearAuthority

def refreshLease (now : UInt64) : State Payload Response :=
  if state.activeSession then { state with leaseDeadlineUs := now + leaseMicroseconds } else state

/-- `service_lease`, if the lease has run out. -/
def serviceLease (now : UInt64) : Option (State Payload Response) :=
  if state.activeSession = false ∨ now < state.leaseDeadlineUs then none
  else some state.clearAuthority

/-! ### Hello -/

def inspectHello (clientNonce : Token) (request : Payload) (currentEpoch : AuthorityEpoch) :
    HelloCacheResult Response :=
  match state.helloCache with
  | none => .newClient
  | some cache =>
      if cache.authorityEpoch ≠ currentEpoch ∨ sameToken cache.clientNonce clientNonce = false then
        .newClient
      else if cache.request ≠ request then .nonceConflict
      else .exactRetry cache.response

/-- `activate_hello`, unless the owner identities are exhausted. -/
def activateHello (clientNonce : Token) (request : Payload) (newSession : Token)
    (authorityEpoch : AuthorityEpoch) (response : Response) (now : UInt64) :
    Option (State Payload Response) :=
  if state.nextLocalOwnerId = 0 then none
  else some { clearNormalCache { state with
      nextLocalOwnerId := state.nextLocalOwnerId + 1
      currentSession := newSession
      activeSession := true
      sessionAuthorityEpoch := authorityEpoch
      localOwnerId := state.nextLocalOwnerId
      leaseDeadlineUs := now + leaseMicroseconds } with
    helloCache := some ⟨clientNonce, request, authorityEpoch, response⟩ }

/-! ### Requests -/

/-- The session part of `inspect_request`. -/
def sessionCurrent (session : Token) (currentEpoch : AuthorityEpoch) : Bool :=
  state.activeSession && state.sessionAuthorityEpoch == currentEpoch &&
    sameToken state.currentSession session

/-- `inspect_request` and `inspect_sensitive_request`, which differ in the
identity they compare. -/
def inspectRequest (session : Token) (id : Int) (identity : RequestIdentity Payload)
    (currentEpoch : AuthorityEpoch) : RequestCacheResult Response :=
  if state.sessionCurrent session currentEpoch = false then .sessionMismatch
  else match state.retryCache with
    | .transition _ | .normal none => .acceptNew
    | .normal (some cache) =>
        if cache.authorityEpoch ≠ currentEpoch ∨ cache.id < id then .acceptNew
        else if id < cache.id then .idStale
        else if cache.identity ≠ identity then .idConflict
        else .exactRetry cache.response

/-- `cache_completed_request` and `cache_completed_sensitive_request`. -/
def cacheCompletedRequest (id : Int) (identity : RequestIdentity Payload)
    (authorityEpoch : AuthorityEpoch) (response : Response) : State Payload Response :=
  { state with retryCache := .normal (some ⟨id, identity, authorityEpoch, response⟩) }

def inspectTransitionRetry (session : Token) (id : Int) (request : Payload) : Option Response :=
  match state.retryCache with
  | .normal _ => none
  | .transition cache =>
      if cache.id ≠ id ∨ sameToken cache.session session = false ∨ cache.request ≠ request then none
      else some cache.response

def cacheTransitionRetry (session : Token) (id : Int) (request : Payload) (requestSize : Nat)
    (response : Response) : State Payload Response :=
  if session.length ≠ tokenHexLength ∨ maxRequestBytes < requestSize then state
  else { state with retryCache := .transition ⟨id, session, request, response⟩ }

/-- A completed request of another epoch is left. -/
def normalCacheOutdated (currentEpoch : AuthorityEpoch) : Bool :=
  match state.retryCache with
  | .normal (some cache) => cache.authorityEpoch != currentEpoch
  | _ => false

def revokeForLifecycleInvalidation (currentEpoch : AuthorityEpoch) : State Payload Response :=
  if (state.activeSession ∧ state.sessionAuthorityEpoch ≠ currentEpoch) ∨
      (∃ cache ∈ state.helloCache, cache.authorityEpoch ≠ currentEpoch) ∨
      state.normalCacheOutdated currentEpoch then
    state.clearAuthority
  else state

end State

end HidBot.ControlSession
