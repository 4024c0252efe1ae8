import K1s.Lib.Machine
import K1s.Py.Base64
import K1s.Py.Decode
import K1s.Py.Time

/-!
# Join tokens

A node trades a join token for a certificate at `/v1/bootstrap`.  A token is checked, a
certificate is issued, and only then is the text of the token put on the list of the
used ones, which is a file that is read and written anew each time.  Several servers may
work on one list.

The main result is that no signed token yields two certificates, as long as no two
requests with it are under way at once, no request carries another text of a token that
has been used, and no addition to the list is lost.
-/

namespace K1s
namespace Security

open Py Machine

/-! ## Tokens -/

def db64 (data : String) : Option (List UInt8) :=
  urlsafeB64decode (data ++ String.ofList (List.replicate ((4 - data.length % 4) % 4) '='))

/-- The four parts of a token, between the colons. -/
def tokenParts (token : String) :
    Option (List UInt8 × List UInt8 × List UInt8 × List UInt8) :=
  (db64 token).bind fun raw =>
    match raw.splitOn 0x3A with
    | [nodeId, expiry, nonce, signature] => some (nodeId, expiry, nonce, signature)
    | _ => none

/-- What a token says and how it is signed. -/
structure SignedToken where
  nodeId : String
  expiry : Int
  nonce : List UInt8
  signature : List UInt8
  deriving DecidableEq

def signedToken (token : String) : Option SignedToken := do
  let (nodeId, expiry, nonce, signature) ← tokenParts token
  return ⟨← decodeUtf8 nodeId, ← (decodeUtf8 expiry).bind intOfText, nonce, signature⟩

variable (hmac : List UInt8 → List UInt8)

/-- `verify_token`, with the node and the time of expiry, for the digest with the secret. -/
def verifyToken (now : Int) (token : String) : Option (String × Int) := do
  let (nodePart, expiryPart, nonce, signature) ← tokenParts token
  let nodeId ← decodeUtf8 nodePart
  let expiry ← (decodeUtf8 expiryPart).bind intOfText
  if hmac (nodePart ++ 0x3A :: expiryPart ++ 0x3A :: nonce) ≠ signature then none
  else
    let expiresAt ← fromTimestamp expiry
    if expiresAt < now then none else return (nodeId, expiresAt)

/-! ## The list of used tokens -/

/-- `used_tokens.json`. -/
inductive UsedTokens
  | missing
  /-- The file holds no document, as while it is written. -/
  | unreadable
  | tokens (listed : List String)
  deriving DecidableEq

/-- The tokens that are read, none if the file cannot be read. -/
def UsedTokens.read : UsedTokens → List String
  | .tokens listed => listed
  | .missing | .unreadable => []

def tokenUsed (used : UsedTokens) (readFails : Bool) (token : String) : Bool :=
  !readFails && used.read.contains token

/-! ## Requests -/

/-- `str(payload.get(key) or "").strip()`. -/
def fieldText (payload : Dict) (key : String) : String :=
  strip ((Dict.get payload key).or (.str "")).toStr

/-- What a request does next. -/
inductive BootstrapPhase
  | idle
  /-- `verify_token` and `token_used`. -/
  | received (payload : Dict)
  /-- `issue_cert`. -/
  | issuing (nodeId join : String)
  /-- `record_used_token`: the list is read. -/
  | recording (join : String)
  /-- `record_used_token`: the file is emptied. -/
  | truncating (join : String) (data : List String)
  /-- `record_used_token`: the list is written. -/
  | writing (join : String) (data : List String)

/-- The list of used tokens, the requests, and the tokens of the certificates that have
been issued. -/
structure BootstrapWorld where
  used : UsedTokens
  certificates : List String
  phases : Nat → BootstrapPhase

/-- A request comes in, takes its next step at a time, or is broken off.  A step may fail
at its file or at `openssl`. -/
inductive BootstrapAction
  | start (thread : Nat) (payload : Dict)
  | advance (thread : Nat) (now : Int) (fails : Bool)
  | abort (thread : Nat)

variable {other : Nat}

namespace BootstrapWorld

variable (world : BootstrapWorld)

def setPhase (thread : Nat) (phase : BootstrapPhase) : BootstrapWorld :=
  { world with phases := Function.update world.phases thread phase }

@[simp] theorem phases_setPhase_self (thread : Nat) (phase : BootstrapPhase) :
    (world.setPhase thread phase).phases thread = phase :=
  Function.update_self ..

theorem phases_setPhase_of_ne
    {thread other : Nat} (phase : BootstrapPhase) (different : other ≠ thread) :
    (world.setPhase thread phase).phases other = world.phases other :=
  Function.update_of_ne different ..

def checked (now : Int) (fails : Bool) (payload : Dict) : BootstrapPhase :=
  let nodeId := fieldText payload "node_id"
  let join := fieldText payload "join_token"
  if nodeId = "" then .idle
  else
    match verifyToken hmac now join with
    | none => .idle
    | some (claimed, _) =>
        if claimed ≠ nodeId then .idle
        else if tokenUsed world.used fails join then .idle
        else .issuing nodeId join

/-- The next step of a request. -/
def advance (thread : Nat) (now : Int) (fails : Bool) : BootstrapWorld :=
  match world.phases thread with
  | .idle => world
  | .received payload => world.setPhase thread (world.checked hmac now fails payload)
  | .issuing _ join =>
      if fails then world.setPhase thread .idle
      else
        { world with certificates := world.certificates ++ [join] }.setPhase thread
          (.recording join)
  | .recording join =>
      world.setPhase thread (.truncating join (if fails then [] else world.used.read))
  | .truncating join data =>
      if fails then world.setPhase thread .idle
      else { world with used := .unreadable }.setPhase thread (.writing join data)
  | .writing join data =>
      if fails then world.setPhase thread .idle
      else { world with used := .tokens (data ++ [join]) }.setPhase thread .idle

def step (world : BootstrapWorld) : BootstrapAction → Option BootstrapWorld
  | .start thread payload =>
      some (match world.phases thread with
      | .idle => world.setPhase thread (.received payload)
      | _ => world)
  | .advance thread now fails => some (world.advance hmac thread now fails)
  | .abort thread => some (world.setPhase thread .idle)

/-! ## The property and its condition -/

/-- After the step every signed token has yielded one certificate at most. -/
def SingleUse (world : BootstrapWorld) (action : BootstrapAction) : Prop :=
  ∀ next, world.step hmac action = some next → (next.certificates.map signedToken).Nodup

end BootstrapWorld

/-- The token of a request that has passed the checks. -/
def BootstrapPhase.join? : BootstrapPhase → Option String
  | .issuing _ join | .recording join | .truncating join _ | .writing join _ => some join
  | .idle | .received _ => none

/-- The request is rewriting the list. -/
def BootstrapPhase.Editing : BootstrapPhase → Prop
  | .truncating _ _ | .writing _ _ => True
  | _ => False

namespace BootstrapWorld

/-- A token may be checked: no other request with the signed token is under way, and
where it has been used, it was under this text, and the list can be read. -/
structure Checkable (world : BootstrapWorld) (fails : Bool) (join : String) : Prop where
  apart : ∀ thread other, (world.phases thread).join? = some other →
    signedToken other ≠ signedToken join
  sameText : ∀ other ∈ world.certificates, signedToken other = signedToken join → other = join
  readable : join ∈ world.certificates → fails = false ∧ world.used ≠ .unreadable

/-- A request whose token is good is checkable, the additions to the list do not overlap,
and none of them fails. -/
def Permits (world : BootstrapWorld) : BootstrapAction → Prop
  | .start _ _ => True
  | .advance thread now fails =>
      match world.phases thread with
      | .received payload =>
          (verifyToken hmac now (fieldText payload "join_token")).isSome →
            world.Checkable fails (fieldText payload "join_token")
      | .recording _ => fails = false ∧ ∀ other, ¬ (world.phases other).Editing
      | .truncating _ _ | .writing _ _ => fails = false
      | .idle | .issuing _ _ => True
  | .abort thread =>
      match world.phases thread with
      | .recording _ | .truncating _ _ | .writing _ _ => False
      | .idle | .received _ | .issuing _ _ => True

end BootstrapWorld

/-! ## One step -/

variable {token : String} {used : UsedTokens}

theorem tokenUsed_of_read (listed : token ∈ used.read) :
    tokenUsed used false token = true := by
  rw [tokenUsed, Bool.not_false, Bool.true_and]
  exact List.contains_iff_mem.mpr listed

namespace BootstrapPhase

/-- The request is going to put the token on the list. -/
def Keeps (token : String) : BootstrapPhase → Prop
  | .recording join | .truncating join _ => join = token
  | .writing join data => join = token ∨ token ∈ data
  | .idle | .received _ | .issuing _ _ => False

/-- What a request relies on. -/
def Fits (used : UsedTokens) (certificates : List String) : BootstrapPhase → Prop
  | .issuing _ join => ∀ other ∈ certificates, signedToken other ≠ signedToken join
  | .truncating _ data => data = used.read
  | .writing _ _ => used = .unreadable
  | .idle | .received _ | .recording _ => True

/-- Two requests that may be under way together. -/
structure Compatible (phase other : BootstrapPhase) : Prop where
  oneEditor : ¬ (phase.Editing ∧ other.Editing)
  oneIssue : ∀ nodeId join, phase = .issuing nodeId join → ∀ token, other.join? = some token →
    signedToken token ≠ signedToken join

theorem compatible_idle (other : BootstrapPhase) :
    Compatible .idle other ∧ other.Compatible .idle :=
  ⟨⟨fun both => both.1, fun _ _ impossible => nomatch impossible⟩,
    ⟨fun both => both.2, fun _ _ _ _ impossible => nomatch impossible⟩⟩

theorem compatible_received (payload : Dict) (other : BootstrapPhase) :
    Compatible (.received payload) other ∧ other.Compatible (.received payload) :=
  ⟨⟨fun both => both.1, fun _ _ impossible => nomatch impossible⟩,
    ⟨fun both => both.2, fun _ _ _ _ impossible => nomatch impossible⟩⟩

end BootstrapPhase

namespace BootstrapWorld

open BootstrapPhase

/-- One certificate at most for every signed token, whose text is on the list or is going
to be. -/
structure Kept (world : BootstrapWorld) : Prop where
  once : (world.certificates.map signedToken).Nodup
  recorded : ∀ token ∈ world.certificates,
    token ∈ world.used.read ∨ ∃ thread, (world.phases thread).Keeps token
  fits : ∀ thread, (world.phases thread).Fits world.used world.certificates
  compatible : ∀ first second, first ≠ second →
    (world.phases first).Compatible (world.phases second)

variable {hmac} {world : BootstrapWorld} {thread : Nat}

variable {phase : BootstrapPhase} {certificates : List String}

/-- The step of one request, which leaves what the others rely on. -/
theorem Kept.update
    (kept : world.Kept) (once : (certificates.map signedToken).Nodup)
    (recorded : ∀ token ∈ certificates, token ∈ used.read ∨ phase.Keeps token ∨
      ∃ other, other ≠ thread ∧ (world.phases other).Keeps token)
    (fits : phase.Fits used certificates)
    (others : ∀ other, other ≠ thread → (world.phases other).Fits used certificates)
    (compatible : ∀ other, other ≠ thread →
      phase.Compatible (world.phases other) ∧ (world.phases other).Compatible phase) :
    ({ world with used := used, certificates := certificates }.setPhase thread phase).Kept := by
  have rest : ∀ other, other ≠ thread →
      ({ world with used := used, certificates := certificates }.setPhase thread phase).phases
        other = world.phases other :=
    fun _ different => phases_setPhase_of_ne _ phase different
  constructor
  · exact once
  · intro token issued
    rcases recorded token issued with listed | keeps | ⟨other, different, keeps⟩
    · exact .inl listed
    · refine .inr ⟨thread, ?_⟩
      rwa [phases_setPhase_self]
    · refine .inr ⟨other, ?_⟩
      rwa [rest other different]
  · intro other
    rcases eq_or_ne other thread with rfl | different
    · rw [phases_setPhase_self]
      exact fits
    · rw [rest other different]
      exact others other different
  · intro first second apart
    rcases eq_or_ne first thread with rfl | firstOther
    · rw [phases_setPhase_self, rest second apart.symm]
      exact (compatible second apart.symm).1
    · rw [rest first firstOther]
      rcases eq_or_ne second thread with rfl | secondOther
      · rw [phases_setPhase_self]
        exact (compatible first firstOther).2
      · rw [rest second secondOther]
        exact kept.compatible first second apart

/-- Where the text of a used token is, as one request sees it. -/
theorem Kept.located
    (kept : world.Kept) (thread : Nat) (issued : token ∈ world.certificates) :
    token ∈ world.used.read ∨ (world.phases thread).Keeps token ∨
      ∃ other, other ≠ thread ∧ (world.phases other).Keeps token := by
  rcases kept.recorded token issued with listed | ⟨other, keeps⟩
  · exact .inl listed
  · rcases eq_or_ne other thread with rfl | different
    · exact .inr (.inl keeps)
    · exact .inr (.inr ⟨other, different, keeps⟩)

/-- A step that changes nothing but the phase of the request. -/
theorem Kept.setPhase
    (kept : world.Kept) (keeps : ∀ token, (world.phases thread).Keeps token → phase.Keeps token)
    (fits : phase.Fits world.used world.certificates)
    (compatible : ∀ other, other ≠ thread →
      phase.Compatible (world.phases other) ∧ (world.phases other).Compatible phase) :
    (world.setPhase thread phase).Kept := by
  refine kept.update kept.once ?_ fits (fun other _ => kept.fits other) compatible
  intro token issued
  exact (kept.located thread issued).imp_right (Or.imp_left (keeps token))

/-- A request that has nothing to put on the list is over. -/
theorem Kept.setIdle
    (kept : world.Kept) (keeps : ∀ token, ¬ (world.phases thread).Keeps token) :
    (world.setPhase thread .idle).Kept :=
  kept.setPhase (fun token keep => absurd keep (keeps token)) trivial
    (fun _ _ => compatible_idle _)

variable {fails : Bool} {join : String}

/-- A token that may be checked and is not found on the list has not been used. -/
theorem Kept.unused
    (kept : world.Kept) (checkable : world.Checkable fails join)
    (notListed : tokenUsed world.used fails join = false) {other : String}
    (issued : other ∈ world.certificates) : signedToken other ≠ signedToken join := by
  intro same
  obtain rfl := checkable.sameText other issued same
  obtain ⟨rfl, readable⟩ := checkable.readable issued
  rcases kept.recorded other issued with listed | ⟨thread, keeps⟩
  · rw [tokenUsed_of_read listed] at notListed
    cases notListed
  · have fits := kept.fits thread
    have apart := checkable.apart thread
    cases phase : world.phases thread with
    | writing join data =>
        rw [phase] at fits
        exact readable fits
    | recording join =>
        rw [phase] at keeps apart
        exact apart join rfl (congrArg signedToken keeps)
    | truncating join data =>
        rw [phase] at keeps apart
        exact apart join rfl (congrArg signedToken keeps)
    | _ =>
        rw [phase] at keeps
        exact keeps

variable {now : Int}

/-- The checks of a request that may be checked. -/
theorem Kept.checked
    (kept : world.Kept) {payload : Dict} (isReceived : world.phases thread = .received payload)
    (checkable : (verifyToken hmac now (fieldText payload "join_token")).isSome →
      world.Checkable fails (fieldText payload "join_token")) :
    (world.setPhase thread (world.checked hmac now fails payload)).Kept := by
  have keepsNothing : ∀ token, ¬ (world.phases thread).Keeps token := by
    intro token keeps
    rw [isReceived] at keeps
    exact keeps
  unfold BootstrapWorld.checked
  dsimp only
  split
  · exact kept.setIdle keepsNothing
  · cases verified : verifyToken hmac now (fieldText payload "join_token") with
    | none => exact kept.setIdle keepsNothing
    | some claims =>
        have checkable := checkable (by rw [verified]; rfl)
        dsimp only
        split
        · exact kept.setIdle keepsNothing
        · cases notListed : tokenUsed world.used fails (fieldText payload "join_token") with
          | true => exact kept.setIdle keepsNothing
          | false =>
              refine kept.setPhase (fun token keep => absurd keep (keepsNothing token)) ?_ ?_
              · exact fun other issued => kept.unused checkable notListed issued
              · intro other _
                refine ⟨⟨fun both => both.1, ?_⟩, fun both => both.2, ?_⟩
                · intro nodeId join isIssuing token carried
                  obtain ⟨-, rfl⟩ := BootstrapPhase.issuing.inj isIssuing
                  exact checkable.apart other token carried
                · intro nodeId join isIssuing token carried
                  obtain rfl := Option.some.inj carried
                  refine (checkable.apart other join ?_).symm
                  rw [isIssuing]
                  rfl

/-- The certificate of a token that has yielded none. -/
theorem Kept.issue
    (kept : world.Kept) {nodeId join : String}
    (isIssuing : world.phases thread = .issuing nodeId join) :
    ({ world with certificates := world.certificates ++ [join] }.setPhase thread
      (.recording join)).Kept := by
  have fresh := kept.fits thread
  rw [isIssuing] at fresh
  refine kept.update ?_ ?_ trivial ?_ ?_
  · rw [List.map_append]
    refine List.nodup_append.mpr ⟨kept.once, List.nodup_singleton _, ?_⟩
    intro first isFirst second isSecond
    obtain ⟨token, issued, rfl⟩ := List.mem_map.mp isFirst
    obtain rfl := List.mem_singleton.mp isSecond
    exact fresh token issued
  · intro token issued
    rcases List.mem_append.mp issued with before | last
    · rcases kept.located thread before with listed | keeps | others
      · exact .inl listed
      · rw [isIssuing] at keeps
        exact keeps.elim
      · exact .inr (.inr others)
    · exact .inr (.inl (List.mem_singleton.mp last).symm)
  · intro other different
    have fits := kept.fits other
    have compatible := (kept.compatible other thread different).oneIssue
    cases phase : world.phases other with
    | issuing otherNode otherJoin =>
        rw [phase] at fits compatible
        intro token issued
        rcases List.mem_append.mp issued with before | last
        · exact fits token before
        · obtain rfl := List.mem_singleton.mp last
          refine compatible otherNode otherJoin rfl token ?_
          rw [isIssuing]
          rfl
    | _ =>
        rw [phase] at fits
        exact fits
  · intro other different
    refine ⟨⟨fun both => both.1, fun _ _ impossible => nomatch impossible⟩, fun both => both.2, ?_⟩
    intro otherNode otherJoin otherIssuing token carried
    refine (kept.compatible other thread different).oneIssue otherNode otherJoin otherIssuing
      token ?_
    rw [isIssuing]
    exact carried

/-- No other request edits the list together with this one. -/
theorem Kept.soleEditor
    (kept : world.Kept) (editing : (world.phases thread).Editing)
    (different : other ≠ thread) : ¬ (world.phases other).Editing :=
  fun otherEditing => (kept.compatible other thread different).oneEditor ⟨otherEditing, editing⟩

/-- A request that does not edit the list does not rely on what is in the file. -/
theorem fits_of_not_editing
    {used other : UsedTokens} (fits : phase.Fits used certificates)
    (notEditing : ¬ phase.Editing) : phase.Fits other certificates := by
  cases phase with
  | truncating join data => exact absurd trivial notEditing
  | writing join data => exact absurd trivial notEditing
  | _ => exact fits

/-- The phase of a request that goes on with a token that it carries. -/
theorem Kept.compatible_onward
    (kept : world.Kept) (carried : (world.phases thread).join? = some join)
    (carries : phase.join? = some join) (noIssue : ∀ nodeId join, phase ≠ .issuing nodeId join)
    (sole : ∀ other, other ≠ thread → ¬ (world.phases other).Editing) (other : Nat)
    (different : other ≠ thread) :
    phase.Compatible (world.phases other) ∧ (world.phases other).Compatible phase := by
  refine ⟨⟨fun both => sole other different both.2, ?_⟩, fun both => sole other different both.1, ?_⟩
  · exact fun nodeId join isIssuing => absurd isIssuing (noIssue nodeId join)
  · intro otherNode otherJoin otherIssuing token same
    refine (kept.compatible other thread different).oneIssue otherNode otherJoin otherIssuing
      token ?_
    rw [carried, ← carries, same]

/-- A permitted step of a request. -/
theorem Kept.advance
    (kept : world.Kept) (permits : world.Permits hmac (.advance thread now fails)) :
    (world.advance hmac thread now fails).Kept := by
  have located : ∀ token ∈ world.certificates, token ∈ world.used.read ∨
      (world.phases thread).Keeps token ∨
        ∃ other, other ≠ thread ∧ (world.phases other).Keeps token :=
    fun _ issued => kept.located thread issued
  cases phase : world.phases thread with
  | idle =>
      simp only [BootstrapWorld.advance, phase]
      exact kept
  | received payload =>
      simp only [Permits, phase] at permits
      simp only [BootstrapWorld.advance, phase]
      exact kept.checked phase permits
  | issuing nodeId join =>
      simp only [BootstrapWorld.advance, phase]
      split
      · refine kept.setIdle fun token keeps => ?_
        rw [phase] at keeps
        exact keeps
      · exact kept.issue phase
  | recording join =>
      simp only [Permits, phase] at permits
      obtain ⟨rfl, alone⟩ := permits
      simp only [BootstrapWorld.advance, phase]
      refine kept.setPhase (fun token keeps => ?_) rfl ?_
      · rw [phase] at keeps
        exact keeps
      · refine kept.compatible_onward ?_ rfl (fun _ _ impossible => nomatch impossible)
          (fun other _ => alone other)
        rw [phase]
        rfl
  | truncating join data =>
      simp only [Permits, phase] at permits
      obtain rfl := permits
      have fits := kept.fits thread
      rw [phase] at located fits
      have sole : ∀ other, other ≠ thread → ¬ (world.phases other).Editing :=
        fun other different => kept.soleEditor (by rw [phase]; trivial) different
      simp only [BootstrapWorld.advance, phase]
      refine kept.update kept.once ?_ rfl ?_ ?_
      · intro token issued
        rcases located token issued with listed | keeps | others
        · exact .inr (.inl (.inr (fits ▸ listed)))
        · exact .inr (.inl (.inl keeps))
        · exact .inr (.inr others)
      · exact fun other different => fits_of_not_editing (kept.fits other) (sole other different)
      · refine kept.compatible_onward ?_ rfl (fun _ _ impossible => nomatch impossible)
          sole
        rw [phase]
        rfl
  | writing join data =>
      simp only [Permits, phase] at permits
      obtain rfl := permits
      have fits := kept.fits thread
      rw [phase] at located fits
      have sole : ∀ other, other ≠ thread → ¬ (world.phases other).Editing :=
        fun other different => kept.soleEditor (by rw [phase]; trivial) different
      simp only [BootstrapWorld.advance, phase]
      refine kept.update kept.once ?_ trivial ?_ (fun _ _ => compatible_idle _)
      · intro token issued
        rcases located token issued with listed | (rfl | written) | others
        · have unreadable : world.used = .unreadable := fits
          rw [unreadable] at listed
          cases listed
        · exact .inl (List.mem_append_right data (List.mem_singleton_self join))
        · exact .inl (List.mem_append_left [join] written)
        · exact .inr (.inr others)
      · exact fun other different => fits_of_not_editing (kept.fits other) (sole other different)

theorem Kept.step
    {next : BootstrapWorld} {action : BootstrapAction} (kept : world.Kept)
    (permits : world.Permits hmac action)
    (stepped : world.step hmac action = some next) : next.Kept := by
  cases action with
  | start thread payload =>
      obtain rfl := Option.some.inj stepped
      cases phase : world.phases thread with
      | idle =>
          refine kept.setPhase (fun token keeps => ?_) trivial (fun _ _ => compatible_received _ _)
          rw [phase] at keeps
          exact keeps
      | _ => exact kept
  | advance thread now fails =>
      obtain rfl := Option.some.inj stepped
      exact kept.advance permits
  | abort thread =>
      obtain rfl := Option.some.inj stepped
      refine kept.setIdle fun token keeps => ?_
      cases phase : world.phases thread with
      | idle | received _ | issuing _ _ =>
          rw [phase] at keeps
          exact keeps
      | recording _ | truncating _ _ | writing _ _ =>
          simp only [Permits, phase] at permits

/-! ## Whole runs -/

/-- The servers before the first request, with the list they find. -/
def before (used : UsedTokens) : BootstrapWorld := ⟨used, [], fun _ => .idle⟩

theorem kept_before (used : UsedTokens) : (before used).Kept where
  once := List.nodup_nil
  recorded _ issued := absurd issued List.not_mem_nil
  fits _ := trivial
  compatible _ _ _ := (compatible_idle _).1

variable (hmac) in
/-- In a run whose steps are permitted no signed token yields two certificates. -/
theorem singleUse_along
    (used : UsedTokens) (actions : List BootstrapAction)
    (permits : Along (step hmac) (Permits hmac) (before used) actions) :
    Along (step hmac) (SingleUse hmac) (before used) actions :=
  along_of_invariant (fun _ _ _ kept permits stepped => Kept.step kept permits stepped)
    (fun _ _ kept permits _ stepped => (Kept.step kept permits stepped).once)
    (kept_before used) permits

variable (hmac) in
/-- When no request is left after such a run, every token that has yielded a certificate is
refused, wherever the list can be read. -/
theorem refused_of_certified
    (used : UsedTokens) (actions : List BootstrapAction) (finish : BootstrapWorld)
    (permits : Along (step hmac) (Permits hmac) (before used) actions)
    (ran : run (step hmac) (before used) actions = some finish)
    (quiet : ∀ thread, finish.phases thread = .idle) (now : Int) (payload : Dict)
    (certified : fieldText payload "join_token" ∈ finish.certificates) :
    finish.checked hmac now false payload = .idle := by
  have kept : finish.Kept :=
    invariant_of_step (fun _ _ _ kept permits stepped => Kept.step kept permits stepped)
      (kept_before used) permits ran
  have listed : tokenUsed finish.used false (fieldText payload "join_token") = true := by
    rcases kept.recorded _ certified with listed | ⟨thread, keeps⟩
    · exact tokenUsed_of_read listed
    · rw [quiet thread] at keeps
      exact keeps.elim
  unfold BootstrapWorld.checked
  dsimp only
  split
  · rfl
  · cases verifyToken hmac now (fieldText payload "join_token") with
    | none => rfl
    | some claims => simp only [ite_self]

/-! ## One request -/

/-- A request that has been checked while no other one is under way is permitted to
finish. -/
theorem permits_finish
    {world : BootstrapWorld} (lone : ∀ other, other ≠ 0 → world.phases other = .idle)
    (checked : ∀ payload, world.phases 0 ≠ .received payload) (now : Int) (count : Nat) :
    Along (step hmac) (Permits hmac) world (List.replicate count (.advance 0 now false)) := by
  induction count generalizing world with
  | zero => trivial
  | succ count ih =>
      have onward : ∀ (world : BootstrapWorld) (used : UsedTokens) (certificates : List String)
          (phase : BootstrapPhase), (∀ other, other ≠ 0 → world.phases other = .idle) →
          (∀ payload, phase ≠ .received payload) →
          Along (step hmac) (Permits hmac)
            ({ world with used := used, certificates := certificates }.setPhase 0 phase)
            (List.replicate count (.advance 0 now false)) := by
        intro world used certificates phase lone notReceived
        refine ih (fun other different => ?_) (fun payload => ?_)
        · rw [phases_setPhase_of_ne _ _ different]
          exact lone other different
        · rw [phases_setPhase_self]
          exact notReceived payload
      refine ⟨?_, fun next stepped => ?_⟩
      · cases phase : world.phases 0 with
        | received payload => exact absurd phase (checked payload)
        | recording join =>
            simp only [Permits, phase, true_and]
            intro other
            rcases eq_or_ne other 0 with rfl | different
            · rw [phase]
              exact id
            · rw [lone other different]
              exact id
        | _ => simp only [Permits, phase]
      · obtain rfl := Option.some.inj stepped
        cases phase : world.phases 0 with
        | received payload => exact absurd phase (checked payload)
        | idle =>
            simp only [BootstrapWorld.advance, phase]
            exact ih lone checked
        | _ =>
            simp only [BootstrapWorld.advance, phase]
            exact onward world _ _ _ lone (fun _ impossible => nomatch impossible)

theorem checked_ne_received
    (world : BootstrapWorld) (now : Int) (fails : Bool) (payload other : Dict) :
    world.checked hmac now fails payload ≠ .received other := by
  unfold BootstrapWorld.checked
  dsimp only
  split
  · exact fun impossible => nomatch impossible
  · split
    · exact fun impossible => nomatch impossible
    · split
      · exact fun impossible => nomatch impossible
      · split
        · exact fun impossible => nomatch impossible
        · exact fun impossible => nomatch impossible

def oneRequest (thread : Nat) (payload : Dict) (now : Int) : List BootstrapAction :=
  .start thread payload :: List.replicate 6 (.advance thread now false)

/-- The first request of all is permitted. -/
theorem permits_oneRequest (used : UsedTokens) (payload : Dict) (now : Int) :
    Along (step hmac) (Permits hmac) (before used) (oneRequest 0 payload now) := by
  have started : step hmac (before used) (.start 0 payload) =
      some ((before used).setPhase 0 (.received payload)) := rfl
  have reached : ((before used).setPhase 0 (.received payload)).phases 0 = .received payload :=
    phases_setPhase_self ..
  have others : ∀ other, other ≠ 0 →
      ((before used).setPhase 0 (.received payload)).phases other = .idle :=
    fun _ different => phases_setPhase_of_ne _ _ different
  have unissued : ((before used).setPhase 0 (.received payload)).certificates = [] := rfl
  generalize (before used).setPhase 0 (.received payload) = world at started reached others unissued
  have stepped : world.step hmac (.advance 0 now false) =
      some (world.setPhase 0 (world.checked hmac now false payload)) := by
    simp only [step, BootstrapWorld.advance, reached]
  refine Along.cons started trivial (Along.cons stepped ?_ (permits_finish ?_ ?_ now 5))
  · simp only [Permits, reached]
    intro _
    refine ⟨fun thread other carried => ?_, fun _ issued => ?_, fun issued => ?_⟩
    · rcases eq_or_ne thread 0 with rfl | different
      · rw [reached] at carried
        cases carried
      · rw [others thread different] at carried
        cases carried
    · rw [unissued] at issued
      cases issued
    · rw [unissued] at issued
      cases issued
  · intro other different
    rw [phases_setPhase_of_ne _ _ different]
    exact others other different
  · intro other
    rw [phases_setPhase_self]
    exact checked_ne_received world now false payload other

/-- The digest with the secret `s` of what the token below says. -/
def digestOfToken : List UInt8 :=
  [39, 239, 125, 88, 252, 22, 229, 64, 97, 209, 12, 3, 230, 140, 197, 174, 223, 10, 207, 129,
    53, 111, 50, 92, 200, 128, 230, 111, 255, 90, 79, 94]

/-- A token of the node `n` until the year 2100. -/
def goodToken : String :=
  "bjo0MTAyNDQ0ODAwOkFBQUFBQUFBQUFBOifvfVj8FuVAYdEMA-aMxa7fCs-BNW8yXMiA5m__Wk9e"

def requestOf (token : String) : Dict := [("node_id", .str "n"), ("join_token", .str token)]

/-- A request with a good token that is not listed ends with a certificate, and the token is
listed. -/
theorem run_oneRequest_eq
    {world : BootstrapWorld} {token : String} {expires : Int} (idle : world.phases 0 = .idle)
    (sent : fieldText (requestOf token) "join_token" = token)
    (verified : verifyToken hmac 0 token = some ("n", expires))
    (unlisted : token ∉ world.used.read) :
    run (step hmac) world (oneRequest 0 (requestOf token) 0) =
      some ⟨.tokens (world.used.read ++ [token]), world.certificates ++ [token],
        world.phases⟩ := by
  have node : fieldText (requestOf token) "node_id" = "n" := by
    simp [fieldText, requestOf, Dict.get, Dict.find?, Json.or, Json.truthy, Json.toStr]
    decide +kernel
  have back : Function.update world.phases 0 .idle = world.phases := by
    rw [← idle, Function.update_eq_self]
  simp [oneRequest, run, step, advance, idle, setPhase, checked, node, sent, verified, tokenUsed,
    unlisted, List.replicate, back]

theorem run_oneRequest
    (world : BootstrapWorld) {token : String} {expires : Int} (idle : world.phases 0 = .idle)
    (sent : fieldText (requestOf token) "join_token" = token)
    (verified : verifyToken hmac 0 token = some ("n", expires))
    (unlisted : token ∉ world.used.read) :
    ∃ finish, run (step hmac) world (oneRequest 0 (requestOf token) 0) = some finish ∧
      finish.phases 0 = .idle ∧ finish.used = .tokens (world.used.read ++ [token]) ∧
      finish.certificates = world.certificates ++ [token] :=
  ⟨_, run_oneRequest_eq idle sent verified unlisted, idle, rfl, rfl⟩

/-- What the two texts below are decoded to. -/
def partsOfToken : List UInt8 × List UInt8 × List UInt8 × List UInt8 :=
  ([110], [52, 49, 48, 50, 52, 52, 52, 56, 48, 48], List.replicate 11 65, digestOfToken)

theorem tokenParts_goodToken : tokenParts goodToken = some partsOfToken := by decide +kernel

theorem tokenParts_otherText : tokenParts (goodToken ++ "!") = some partsOfToken := by
  decide +kernel

theorem verifyToken_of_parts {token : String} (parts : tokenParts token = some partsOfToken) :
    verifyToken (fun _ => digestOfToken) 0 token = some ("n", 4102444800000000) := by
  rw [verifyToken, parts]
  decide +kernel

theorem singleUse_goodToken :
    Along (step fun _ => digestOfToken) (SingleUse fun _ => digestOfToken) (before .missing)
      (oneRequest 0 (requestOf goodToken) 0) :=
  singleUse_along (fun _ => digestOfToken) .missing _ (permits_oneRequest .missing _ 0)

theorem refused_of_certified_goodToken :
    ∃ finish, run (step fun _ => digestOfToken) (before .missing)
        (oneRequest 0 (requestOf goodToken) 0) = some finish ∧
      finish.certificates = [goodToken] ∧
      finish.checked (fun _ => digestOfToken) 0 false (requestOf goodToken) = .idle := by
  have sent : fieldText (requestOf goodToken) "join_token" = goodToken := by decide +kernel
  have ran : run (step fun _ => digestOfToken) (before .missing)
      (oneRequest 0 (requestOf goodToken) 0) = some _ :=
    run_oneRequest_eq rfl sent (verifyToken_of_parts tokenParts_goodToken) List.not_mem_nil
  exact ⟨_, ran, rfl, refused_of_certified (fun _ => digestOfToken) .missing _ _
    (permits_oneRequest .missing _ 0) ran (fun _ => rfl) 0 (requestOf goodToken)
    (by rw [sent]; exact List.mem_singleton_self _)⟩

/-- The same token is used again with an exclamation mark behind it. -/
theorem not_singleUse_otherText :
    ¬ Along (step fun _ => digestOfToken) (SingleUse fun _ => digestOfToken) (before .missing)
      (oneRequest 0 (requestOf goodToken) 0 ++ oneRequest 0 (requestOf (goodToken ++ "!")) 0) := by
  intro along
  obtain ⟨middle, first, idle, used, certificates⟩ := run_oneRequest
    (before .missing) rfl (by decide +kernel) (verifyToken_of_parts tokenParts_goodToken)
    List.not_mem_nil
  obtain ⟨finish, second, -, -, issued⟩ := run_oneRequest
    middle idle (by decide +kernel) (verifyToken_of_parts tokenParts_otherText)
    (by rw [used]; decide +kernel)
  have ran := (run_append_eq_some ..).mpr ⟨middle, first, second⟩
  have same : signedToken (goodToken ++ "!") = signedToken goodToken := by
    rw [signedToken, signedToken, tokenParts_goodToken, tokenParts_otherText]
  have preserves : ∀ (world : BootstrapWorld) action next,
      (world.certificates.map signedToken).Nodup →
      world.SingleUse (fun _ => digestOfToken) action →
      world.step (fun _ => digestOfToken) action = some next →
      (next.certificates.map signedToken).Nodup :=
    fun _ _ next _ safe stepped => safe next stepped
  have once := invariant_of_step preserves
    (show ((before .missing).certificates.map signedToken).Nodup from List.nodup_nil) along ran
  rw [issued, certificates] at once
  simp [before, same] at once

end BootstrapWorld

end Security
end K1s
