import K1s.Inference.StagePlanner
import K1s.Lib.Dictionary
import K1s.Lib.Machine
import K1s.Py.IpAddress
import K1s.Py.Time

/-!
# The addresses of fabric sessions

`LocalFabricBroker`: a session gives every placement of a cell an address.  The third
octet is drawn from the digest of the cell key, and the last one counts the placements.
The digest is an arbitrary function of the cell key, and the sessions in the store are not
looked at.

The main result is that the addresses of the stored sessions are those of hosts, and no
two cells share one, exactly when no session has more than 254 members and no two cells
that have members have draws of the same octet.
-/

namespace K1s
namespace Inference

open Py Machine

abbrev Digest := String → Vector UInt8 32

def hexdigest (bytes : Vector UInt8 32) : List Char :=
  bytes.toList.flatMap fun byte =>
    [(byte.toNat / 16).digitChar, (byte.toNat % 16).digitChar]

/-- `int(digest[:2], 16) % 200 + 20`. -/
def octet3 (digest : Digest) (cellKey : String) : Nat :=
  (hexDigitsValue 0 ((hexdigest (digest cellKey)).take 2)).getD 0 % 200 + 20

/-! ## The broker -/

/-- The arguments of `create_session`. -/
structure FabricRequest where
  cellKey : String
  policyMode : String
  mode : String
  ttlSeconds : Int
  placements : List SitedPlacement
  allowedRules : List Json

structure FabricMember where
  nodeId : String
  siteId : String
  fabricIp : String
  stage : Int
  deriving DecidableEq

/-- A session as it is stored and returned. -/
structure FabricSession where
  sessionId : String
  cellKey : String
  ifname : String
  policyMode : String
  mode : String
  members : List FabricMember
  memberIps : Dictionary String String
  allowedRules : List Json
  expiresAt : Int

/-- `f"10.250.{octet3}.{idx}"`. -/
def fabricIp (octet3 idx : Nat) : String :=
  "10.250." ++ toString octet3 ++ "." ++ toString idx

/-- The members of a session, in the order of their nodes. -/
def fabricMembers (octet3 : Nat) (placements : List SitedPlacement) : List FabricMember :=
  ((placements.insertionSort fun first second => first.nodeId ≤ second.nodeId).zipIdx 1).map
    fun entry =>
      { nodeId := entry.1.nodeId
        siteId := entry.1.siteId
        fabricIp := fabricIp octet3 entry.2
        stage := entry.1.stage }

/-- `create_session`, with the drawn id and the time, and `none` where the expiry is no
date. -/
def createSession (digest : Digest) (request : FabricRequest) (sessionId : String) (now : Int) :
    Option FabricSession :=
  let ttl := max 30 request.ttlSeconds
  let members := fabricMembers (octet3 digest request.cellKey) request.placements
  (addSeconds now ttl).map fun expiresAt =>
    { sessionId := sessionId
      cellKey := request.cellKey
      ifname := "wg-cell-" ++ String.ofList ((hexdigest (digest request.cellKey)).take 8)
      policyMode := request.policyMode
      mode := request.mode
      members := members
      memberIps := Dictionary.ofList (members.map fun member => (member.nodeId, member.fabricIp))
      allowedRules := request.allowedRules
      expiresAt := expiresAt }

/-! ## The stored sessions -/

/-- A session is created or torn down. -/
inductive FabricAction
  | create (request : FabricRequest) (sessionId : String) (now : Int)
  | teardown (sessionId : String)

/-- One call of the broker, on the stored sessions. -/
def fabricStep (digest : Digest) (sessions : List FabricSession) :
    FabricAction → Option (List FabricSession)
  | .create request sessionId now =>
      match createSession digest request sessionId now with
      | none => some sessions
      | some session =>
          some (session :: sessions.filter fun stored => stored.sessionId ≠ sessionId)
  | .teardown sessionId => some (sessions.filter fun stored => stored.sessionId ≠ sessionId)

def FabricSession.addresses (session : FabricSession) : List String :=
  session.members.map FabricMember.fabricIp

/-- The text is the address of a host in an IPv4 network with 24 bits. -/
def IsHostAddress (text : String) : Prop :=
  ∃ value, ipv4Int text = some value ∧ 1 ≤ value % 256 ∧ value % 256 ≤ 254

/-- All addresses are those of hosts, and no address is given to members of sessions of
two cells. -/
structure AddressesUnique (sessions : List FabricSession) : Prop where
  hosts : ∀ session ∈ sessions, ∀ address ∈ session.addresses, IsHostAddress address
  apart : ∀ first ∈ sessions, ∀ second ∈ sessions, first.cellKey ≠ second.cellKey →
    List.Disjoint first.addresses second.addresses

/-- What the octet of a cell is drawn from. -/
def draw (digest : Digest) (cellKey : String) : Nat := (digest cellKey)[0].toNat % 200

/-- No session has more than 254 members, and no two cells with members have the same
draw. -/
structure Spread (digest : Digest) (sessions : List FabricSession) : Prop where
  short : ∀ session ∈ sessions, session.members.length ≤ 254
  apart : ∀ first ∈ sessions, ∀ second ∈ sessions, first.cellKey ≠ second.cellKey →
    first.members ≠ [] → second.members ≠ [] →
      draw digest first.cellKey ≠ draw digest second.cellKey

/-! ## The octet of a cell -/

/-- The first two hexadecimal digits are the first byte. -/
theorem octet3_eq (digest : Digest) (cellKey : String) :
    octet3 digest cellKey = draw digest cellKey + 20 := by
  have bytes : (digest cellKey).toList = (digest cellKey)[0] :: (digest cellKey).toList.tail := by
    have positive : 0 < (digest cellKey).toList.length := by simp
    have head : (digest cellKey).toList[0] = (digest cellKey)[0] := Vector.getElem_toList positive
    rw [← head, ← List.drop_one, List.getElem_cons_drop, List.drop_zero]
  have small := (digest cellKey)[0].toNat_lt
  have digits : (hexdigest (digest cellKey)).take 2 =
      [((digest cellKey)[0].toNat / 16).digitChar, ((digest cellKey)[0].toNat % 16).digitChar] := by
    rw [hexdigest, bytes]
    rfl
  have value : hexDigitsValue 0 ((hexdigest (digest cellKey)).take 2) =
      some (digest cellKey)[0].toNat := by
    rw [digits]
    simp only [hexDigitsValue, List.foldlM_cons, List.foldlM_nil,
      hexValue_digitChar (show (digest cellKey)[0].toNat / 16 < 16 by omega),
      hexValue_digitChar (Nat.mod_lt (digest cellKey)[0].toNat (by decide : 0 < 16))]
    simp
    omega
  rw [octet3, value]
  rfl

theorem octet3_lt (digest : Digest) (cellKey : String) : octet3 digest cellKey < 256 := by
  rw [octet3]
  omega

/-! ## The text of an address -/

theorem parseOctet_toString_of_le
    {octet : Nat}
    (large : 256 ≤ octet) : parseOctet (toString octet) = none := by
  have value : digitsValue (toString octet).toList = octet := by
    rw [Nat.toString_eq_repr, Nat.toList_repr, digitsValue_toDigits]
  unfold parseOctet
  split
  · rfl
  · rw [value, if_pos (by omega)]

theorem split_fabricIp (octet3 idx : Nat) :
    split '.' (fabricIp octet3 idx) = ["10", "250", toString octet3, toString idx] := by
  have text : fabricIp octet3 idx =
      String.intercalate (Char.toString '.') ["10", "250", toString octet3, toString idx] := by
    apply String.toList_injective
    simp [fabricIp, String.intercalate_cons_cons, Char.toString]
  rw [text]
  refine split_intercalate (by simp) fun part member => ?_
  simp only [List.mem_cons, List.not_mem_nil, or_false] at member
  rcases member with rfl | rfl | rfl | rfl
  · decide
  · decide
  · exact notMem_toString (by decide) octet3
  · exact notMem_toString (by decide) idx

/-- Two addresses are the same only if both octets are. -/
theorem fabricIp_inj
    {octet3 idx otherOctet3 otherIdx : Nat}
    (same : fabricIp octet3 idx = fabricIp otherOctet3 otherIdx) :
    octet3 = otherOctet3 ∧ idx = otherIdx := by
  have parts := split_fabricIp octet3 idx
  rw [same, split_fabricIp] at parts
  simp only [List.cons.injEq, true_and, and_true, Nat.toString_eq_repr, Nat.repr_inj] at parts
  exact ⟨parts.1.symm, parts.2.symm⟩

/-- The address is that of a host exactly if its last octet is. -/
theorem isHostAddress_fabricIp {octet3 : Nat} (small : octet3 < 256) (idx : Nat) :
    IsHostAddress (fabricIp octet3 idx) ↔ 1 ≤ idx ∧ idx ≤ 254 := by
  have ten : parseOctet "10" = some 10 := by decide
  have second : parseOctet "250" = some 250 := by decide
  unfold IsHostAddress ipv4Int
  rw [split_fabricIp]
  by_cases inside : idx < 256
  · simp only [List.mapM_cons, List.mapM_nil, ten, second, parseOctet_toString small,
      parseOctet_toString inside, Option.bind_eq_bind, Option.bind_some, Option.pure_def,
      List.foldl_cons, List.foldl_nil, Option.some.injEq, exists_eq_left']
    omega
  · simp only [List.mapM_cons, List.mapM_nil, ten, second, parseOctet_toString small,
      parseOctet_toString_of_le (Nat.le_of_not_lt inside), Option.bind_eq_bind, Option.bind_some,
      Option.bind_none, reduceCtorEq, false_and, exists_false, false_iff]
    omega

/-! ## What a session gives out -/

/-- A session that `create_session` has made. -/
def FabricSession.MadeBy (digest : Digest) (session : FabricSession) : Prop :=
  session.addresses =
    (List.range' 1 session.members.length).map (fabricIp (octet3 digest session.cellKey))

/-- The members are given the addresses from the first one on. -/
theorem addresses_fabricMembers (octet3 : Nat) (placements : List SitedPlacement) :
    (fabricMembers octet3 placements).map FabricMember.fabricIp =
      (List.range' 1 (fabricMembers octet3 placements).length).map (fabricIp octet3) := by
  unfold fabricMembers
  generalize placements.insertionSort (fun first second => first.nodeId ≤ second.nodeId) = sorted
  rw [List.map_map, List.length_map, List.length_zipIdx, ← List.zipIdx_map_snd 1 sorted,
    List.map_map]
  rfl

theorem madeBy_createSession
    {digest : Digest} {request : FabricRequest} {sessionId : String} {now : Int}
    {session : FabricSession} (made : createSession digest request sessionId now = some session) :
    session.MadeBy digest := by
  obtain ⟨expiresAt, -, rfl⟩ := Option.map_eq_some_iff.1 made
  exact addresses_fabricMembers (octet3 digest request.cellKey) request.placements

namespace FabricSession

variable {digest : Digest} {session : FabricSession}

theorem MadeBy.mem_addresses_iff (made : session.MadeBy digest) (address : String) :
    address ∈ session.addresses ↔ ∃ idx, 1 ≤ idx ∧ idx ≤ session.members.length ∧
        fabricIp (octet3 digest session.cellKey) idx = address := by
  rw [made, List.mem_map]
  refine exists_congr fun idx => ?_
  rw [List.mem_range'_1, and_assoc]
  refine and_congr_right fun _ => and_congr_left fun _ => ?_
  omega

/-- The addresses are those of hosts exactly if there are at most 254. -/
theorem MadeBy.hosts_iff (made : session.MadeBy digest) :
    (∀ address ∈ session.addresses, IsHostAddress address) ↔ session.members.length ≤ 254 := by
  have small := octet3_lt digest session.cellKey
  constructor
  · intro hosts
    by_contra long
    have last := hosts _ ((made.mem_addresses_iff _).2 ⟨255, by decide, by omega, rfl⟩)
    rw [isHostAddress_fabricIp small] at last
    omega
  · intro short address member
    obtain ⟨idx, first, last, rfl⟩ := (made.mem_addresses_iff address).1 member
    exact (isHostAddress_fabricIp small idx).2 ⟨first, by omega⟩

/-- Two sessions share no address exactly if one is empty or their draws differ. -/
theorem MadeBy.disjoint_iff
    {other : FabricSession} (made : session.MadeBy digest) (otherMade : other.MadeBy digest) :
    List.Disjoint session.addresses other.addresses ↔ (session.members ≠ [] → other.members ≠ [] →
        draw digest session.cellKey ≠ draw digest other.cellKey) := by
  constructor
  · intro disjoint some otherSome same
    have octets : octet3 digest session.cellKey = octet3 digest other.cellKey := by
      rw [octet3_eq, octet3_eq, same]
    have first := List.length_pos_iff.2 some
    have otherFirst := List.length_pos_iff.2 otherSome
    exact disjoint ((made.mem_addresses_iff _).2 ⟨1, le_rfl, first, rfl⟩)
      ((otherMade.mem_addresses_iff _).2 ⟨1, le_rfl, otherFirst, by rw [octets]⟩)
  · intro apart address member otherMember
    obtain ⟨idx, first, last, rfl⟩ := (made.mem_addresses_iff address).1 member
    obtain ⟨otherIdx, otherFirst, otherLast, same⟩ :=
      (otherMade.mem_addresses_iff _).1 otherMember
    have octets := (fabricIp_inj same).1
    rw [octet3_eq, octet3_eq] at octets
    exact apart (List.length_pos_iff.1 (by omega)) (List.length_pos_iff.1 (by omega)) (by omega)

end FabricSession

/-! ## Runs -/

/-- All stored sessions have been made by the broker. -/
theorem madeBy_step
    {digest : Digest} {sessions next : List FabricSession} {action : FabricAction}
    (made : ∀ session ∈ sessions, session.MadeBy digest)
    (stepped : fabricStep digest sessions action = some next) :
    ∀ session ∈ next, session.MadeBy digest := by
  cases action with
  | create request sessionId now =>
      simp only [fabricStep] at stepped
      cases created : createSession digest request sessionId now with
      | none =>
          rw [created] at stepped
          exact Option.some.inj stepped ▸ made
      | some session =>
          rw [created] at stepped
          obtain rfl := Option.some.inj stepped
          rw [List.forall_mem_cons]
          exact ⟨madeBy_createSession created, fun stored member =>
            made stored (List.mem_of_mem_filter member)⟩
  | teardown sessionId =>
      obtain rfl := Option.some.inj stepped
      exact fun stored member => made stored (List.mem_of_mem_filter member)

/-- After every run, the addresses are unique exactly if the sessions are short and the
draws of their cells differ. -/
theorem addressesUnique_iff
    (digest : Digest) (actions : List FabricAction) {sessions : List FabricSession}
    (ran : run (fabricStep digest) [] actions = some sessions) :
    AddressesUnique sessions ↔ Spread digest sessions := by
  have made : ∀ session ∈ sessions, session.MadeBy digest :=
    invariant_of_run (fun _ _ _ made stepped => madeBy_step made stepped) (by simp) ran
  constructor
  · intro unique
    refine ⟨fun session member => ?_, fun first isFirst second isSecond cells => ?_⟩
    · exact (made session member).hosts_iff.1 (unique.hosts session member)
    · exact ((made first isFirst).disjoint_iff (made second isSecond)).1
        (unique.apart first isFirst second isSecond cells)
  · intro spread
    refine ⟨fun session member => ?_, fun first isFirst second isSecond cells => ?_⟩
    · exact (made session member).hosts_iff.2 (spread.short session member)
    · exact ((made first isFirst).disjoint_iff (made second isSecond)).2
        (spread.apart first isFirst second isSecond cells)

def requestOf (cellKey : String) : FabricRequest where
  cellKey := cellKey
  policyMode := "strict_ports"
  mode := "simulated"
  ttlSeconds := 600
  placements := [⟨⟨0, "node-a", [0]⟩, "site-a"⟩]
  allowedRules := []

/-- A digest whose first byte is the length of the key. -/
def lengthDigest (cellKey : String) : Vector UInt8 32 :=
  (Vector.replicate 32 0).set 0 (UInt8.ofNat cellKey.length)

/-- Two cells that each have a session. -/
def sessionsOf (first second : String) : Option (List FabricSession) :=
  run (fabricStep lengthDigest) []
    [.create (requestOf first) "s-1" 0, .create (requestOf second) "s-2" 0]

/-- What the sessions of two cells give out. -/
def shownSessions (first second : String) : Option (List (String × List String)) :=
  (sessionsOf first second).map fun sessions =>
    sessions.map fun session => (session.cellKey, session.addresses)

theorem addressesUnique_apart :
    ∃ sessions, sessionsOf "a" "bb" = some sessions ∧ sessions.length = 2 ∧
      AddressesUnique sessions := by
  have shown : shownSessions "a" "bb" =
      some [("bb", ["10.250.22.1"]), ("a", ["10.250.21.1"])] := by decide +kernel
  obtain ⟨sessions, ran, listed⟩ := Option.map_eq_some_iff.1 shown
  have entries : ∀ session ∈ sessions, (session.cellKey, session.addresses) ∈
      [("bb", ["10.250.22.1"]), ("a", ["10.250.21.1"])] := fun session member =>
    listed ▸ List.mem_map_of_mem member
  have draws : draw lengthDigest "a" ≠ draw lengthDigest "bb" := by decide +kernel
  refine ⟨sessions, ran, by simpa using congrArg List.length listed,
    (addressesUnique_iff lengthDigest _ ran).2 ⟨?_, ?_⟩⟩
  · intro session member
    have count : session.members.length = session.addresses.length := by
      simp [FabricSession.addresses]
    have entry := entries session member
    simp only [List.mem_cons, Prod.mk.injEq, List.not_mem_nil, or_false] at entry
    rcases entry with ⟨-, one⟩ | ⟨-, one⟩ <;> simp [count, one]
  · intro first isFirst second isSecond cells _ _
    have firstEntry := entries first isFirst
    have secondEntry := entries second isSecond
    simp only [List.mem_cons, Prod.mk.injEq, List.not_mem_nil, or_false] at firstEntry secondEntry
    rcases firstEntry with ⟨firstKey, -⟩ | ⟨firstKey, -⟩ <;>
      rcases secondEntry with ⟨secondKey, -⟩ | ⟨secondKey, -⟩ <;>
        rw [firstKey, secondKey] at cells ⊢
    · exact absurd rfl cells
    · exact draws.symm
    · exact draws
    · exact absurd rfl cells

/-- Two cells whose keys have the same first byte of the digest share an address. -/
theorem not_addressesUnique_sameDraw :
    ∃ sessions, sessionsOf "a" "b" = some sessions ∧ ¬ AddressesUnique sessions := by
  have shown : shownSessions "a" "b" =
      some [("b", ["10.250.21.1"]), ("a", ["10.250.21.1"])] := by decide +kernel
  obtain ⟨sessions, ran, listed⟩ := Option.map_eq_some_iff.1 shown
  refine ⟨sessions, ran, fun unique => ?_⟩
  have holds : ∀ cellKey, (cellKey, ["10.250.21.1"]) ∈
      [("b", ["10.250.21.1"]), ("a", ["10.250.21.1"])] →
      ∃ session ∈ sessions, session.cellKey = cellKey ∧ session.addresses = ["10.250.21.1"] := by
    intro cellKey member
    rw [← listed, List.mem_map] at member
    obtain ⟨session, isSession, same⟩ := member
    exact ⟨session, isSession, (Prod.mk.inj same).1, (Prod.mk.inj same).2⟩
  obtain ⟨first, isFirst, firstKey, firstGives⟩ := holds "a" (by simp)
  obtain ⟨second, isSecond, secondKey, secondGives⟩ := holds "b" (by simp)
  have disjoint := unique.apart first isFirst second isSecond (by rw [firstKey, secondKey]; decide)
  rw [firstGives, secondGives] at disjoint
  exact disjoint List.mem_cons_self List.mem_cons_self

end Inference
end K1s
