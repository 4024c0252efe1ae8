import K1s.Py.Encode
import K1s.Security.JoinTokens

/-!
# What a join token gives back

`issue_token` joins the node, the seconds of the expiry and the encoded nonce with colons,
and adds the bytes of the signature behind one more colon.  `verify_token` takes the four
parts apart at the colons.

The main result says when a token gives back its node and its expiry: exactly if there is
no colon in the node and no byte of a colon in the signature, and the expiry is a time of
whole seconds whose clock is in UTC.
-/

namespace K1s
namespace Security

open Py

/-! ## Tokens -/

def b64 (data : List UInt8) : String := rstrip '=' (urlsafeB64encode data)

/-- A `datetime`: the microseconds of its clock and its offset from UTC.  One without a
time zone has none. -/
structure ExpiryTime where
  clock : Int
  offset : Int
  isDatetime : datetimeMin ≤ clock ∧ clock ≤ datetimeMax

namespace ExpiryTime

variable (expiresAt : ExpiryTime)

/-- The time in UTC. -/
def instant : Int := expiresAt.clock - expiresAt.offset

/-- `int(expires_at.replace(tzinfo=UTC).timestamp())`, which reads the clock as UTC. -/
def timestamp : Int := expiresAt.clock.tdiv 1000000

end ExpiryTime

/-- What is signed. -/
def tokenBody (nodeId : String) (expiresAt : ExpiryTime) (nonce : List UInt8) : List UInt8 :=
  encodeUtf8 (nodeId ++ ":" ++ toString expiresAt.timestamp ++ ":" ++ b64 nonce)

section Issue

variable (digest : String → List UInt8 → List UInt8) (secret nodeId : String)
variable (expiresAt : ExpiryTime) (nonce : List UInt8)

/-- The bytes of the signature. -/
def tokenSignature : List UInt8 := digest secret (tokenBody nodeId expiresAt nonce)

/-- `issue_token`, with `none` for a secret that is not configured. -/
def issueToken : Option String :=
  if secret = "" then none
  else some (b64 (tokenBody nodeId expiresAt nonce ++
    0x3A :: tokenSignature digest secret nodeId expiresAt nonce))

/-- Before its expiry the token is good for the node and the time that it was issued for. -/
def GivesBack : Prop :=
  ∃ token, issueToken digest secret nodeId expiresAt nonce = some token ∧
    ∀ now, now < expiresAt.instant →
      verifyToken (digest secret) now token = some (nodeId, expiresAt.instant)

/-- The parts of the token can be told apart, and the expiry is kept. -/
structure Recoverable : Prop where
  node : ':' ∉ nodeId.toList
  signature : 0x3A ∉ tokenSignature digest secret nodeId expiresAt nonce
  expiry : 1000000 * expiresAt.timestamp = expiresAt.instant

end Issue

/-! ## Taking a token apart -/

/-- What `_b64` has encoded, `_db64` decodes. -/
theorem db64_b64 (data : List UInt8) : db64 (b64 data) = some data := by
  rw [db64, b64, ← urlsafeB64encode_eq, urlsafeB64decode_urlsafeB64encode]

theorem colon_notMem_b64 (data : List UInt8) : ':' ∉ (b64 data).toList := by
  rw [b64, rstrip_urlsafeB64encode, String.toList_ofList]
  intro member
  obtain ⟨value, isSextet, same⟩ := List.mem_map.mp member
  exact (isBase64Char (sextets_lt data value isSextet)).safeNotColon same

theorem colon_notMem_toString (number : Int) : ':' ∉ (toString number).toList := by
  rw [toList_toString_int, List.mem_append]
  rintro (sign | digit)
  · split at sign
    · cases sign
    · cases List.mem_singleton.mp sign
  · cases Nat.isDigit_of_mem_toDigits (by decide) (by decide) digit

theorem colonByte_mem_iff (text : String) : 0x3A ∈ encodeUtf8 text ↔ ':' ∈ text.toList :=
  mem_encodeUtf8_iff text ':' (by decide)

theorem encodeUtf8_append (first second : String) :
    encodeUtf8 (first ++ second) = encodeUtf8 first ++ encodeUtf8 second := by
  rw [encodeUtf8, String.toList_append]
  exact List.flatMap_append

theorem tokenBody_eq (nodeId : String) (expiresAt : ExpiryTime) (nonce : List UInt8) :
    tokenBody nodeId expiresAt nonce =
      encodeUtf8 nodeId ++ 0x3A :: encodeUtf8 (toString expiresAt.timestamp) ++
        0x3A :: encodeUtf8 (b64 nonce) := by
  have colon : encodeUtf8 ":" = [0x3A] := by decide
  simp only [tokenBody, encodeUtf8_append, colon, List.append_assoc, List.cons_append,
    List.nil_append]

/-- A list with the separator is split into two parts at least. -/
theorem two_le_length_splitOn
    {bytes : List UInt8} {separator : UInt8}
    (member : separator ∈ bytes) : 2 ≤ (bytes.splitOn separator).length := by
  obtain ⟨front, back, rfl⟩ := List.append_of_mem member
  have frontPart := List.length_pos_of_ne_nil (List.splitOn_ne_nil separator front)
  have backPart := List.length_pos_of_ne_nil (List.splitOn_ne_nil separator back)
  rw [List.splitOn_append_cons_self, List.length_append]
  omega

section Parts

variable {digest : String → List UInt8 → List UInt8} {secret nodeId : String}
variable {expiresAt : ExpiryTime} {nonce : List UInt8}

/-- The parts of an issued token. -/
theorem splitOn_token (signature : List UInt8) :
    (tokenBody nodeId expiresAt nonce ++ 0x3A :: signature).splitOn 0x3A =
      (encodeUtf8 nodeId).splitOn 0x3A ++
        (encodeUtf8 (toString expiresAt.timestamp) :: encodeUtf8 (b64 nonce) ::
          signature.splitOn 0x3A) := by
  have expiryPart : 0x3A ∉ encodeUtf8 (toString expiresAt.timestamp) := fun member =>
    colon_notMem_toString _ ((colonByte_mem_iff _).mp member)
  have noncePart : 0x3A ∉ encodeUtf8 (b64 nonce) := fun member =>
    colon_notMem_b64 _ ((colonByte_mem_iff _).mp member)
  rw [tokenBody_eq, List.append_assoc, List.append_assoc, List.cons_append, List.cons_append,
    List.splitOn_append_cons_self, List.splitOn_append_cons_self_of_not_mem expiryPart,
    List.splitOn_append_cons_self_of_not_mem noncePart]

/-- A token without further colons has its four parts. -/
theorem tokenParts_b64
    {signature : List UInt8} (node : ':' ∉ nodeId.toList) (signed : 0x3A ∉ signature) :
    tokenParts (b64 (tokenBody nodeId expiresAt nonce ++ 0x3A :: signature)) =
      some (encodeUtf8 nodeId, encodeUtf8 (toString expiresAt.timestamp), encodeUtf8 (b64 nonce),
        signature) := by
  have nodePart : 0x3A ∉ encodeUtf8 nodeId := fun member => node ((colonByte_mem_iff _).mp member)
  rw [tokenParts, db64_b64, Option.bind_some, splitOn_token, List.splitOn_eq_singleton nodePart,
    List.splitOn_eq_singleton signed]
  rfl

theorem noColons_of_tokenParts
    {signature : List UInt8} {parts : List UInt8 × List UInt8 × List UInt8 × List UInt8}
    (isParts : tokenParts (b64 (tokenBody nodeId expiresAt nonce ++ 0x3A :: signature)) =
      some parts) :
    ':' ∉ nodeId.toList ∧ 0x3A ∉ signature := by
  have four : ((tokenBody nodeId expiresAt nonce ++ 0x3A :: signature).splitOn 0x3A).length =
      4 := by
    rw [tokenParts, db64_b64, Option.bind_some] at isParts
    split at isParts
    · next split => rw [split]; rfl
    · cases isParts
  have nodeParts := List.length_pos_of_ne_nil (List.splitOn_ne_nil 0x3A (encodeUtf8 nodeId))
  have signatureParts := List.length_pos_of_ne_nil (List.splitOn_ne_nil 0x3A signature)
  rw [splitOn_token, List.length_append, List.length_cons, List.length_cons] at four
  constructor
  · intro member
    have := two_le_length_splitOn ((colonByte_mem_iff nodeId).mpr member)
    omega
  · intro member
    have := two_le_length_splitOn member
    omega

/-- A token that is good has four parts. -/
theorem exists_tokenParts
    {hmac : List UInt8 → List UInt8} {now : Int} {token : String} {claim : String × Int}
    (verified : verifyToken hmac now token = some claim) :
    ∃ parts, tokenParts token = some parts := by
  unfold verifyToken at verified
  obtain ⟨parts, isParts, -⟩ := Option.bind_eq_some_iff.mp verified
  exact ⟨parts, isParts⟩

/-- The seconds of an expiry are a time. -/
theorem fromTimestamp_timestamp (expiresAt : ExpiryTime) :
    fromTimestamp expiresAt.timestamp = some (1000000 * expiresAt.timestamp) := by
  have inRange := expiresAt.isDatetime
  unfold datetimeMin datetimeMax at inRange
  rw [fromTimestamp, if_pos]
  unfold datetimeMin datetimeMax ExpiryTime.timestamp
  rw [Int.tdiv_eq_ediv]
  have sign : Int.sign 1000000 = 1 := rfl
  split <;> omega

/-- What is read of an issued token without further colons. -/
theorem verifyToken_b64
    (node : ':' ∉ nodeId.toList)
    (signed : 0x3A ∉ tokenSignature digest secret nodeId expiresAt nonce) (now : Int) :
    verifyToken (digest secret) now (b64 (tokenBody nodeId expiresAt nonce ++
        0x3A :: tokenSignature digest secret nodeId expiresAt nonce)) =
      if 1000000 * expiresAt.timestamp < now then none
      else some (nodeId, 1000000 * expiresAt.timestamp) := by
  have good : digest secret (encodeUtf8 nodeId ++ 0x3A :: encodeUtf8 (toString expiresAt.timestamp) ++
      0x3A :: encodeUtf8 (b64 nonce)) = tokenSignature digest secret nodeId expiresAt nonce := by
    rw [← tokenBody_eq]
    rfl
  simp only [verifyToken, tokenParts_b64 node signed, Option.bind_eq_bind, Option.bind_some,
    decodeUtf8_encodeUtf8, intOfText_toString, good, ne_eq, not_true_eq_false, if_false,
    fromTimestamp_timestamp]
  rfl

/-- A token gives back its node and its expiry exactly if no colon is in its node or its
signature and its expiry is kept. -/
theorem givesBack_iff
    (digest : String → List UInt8 → List UInt8) (nodeId : String) (expiresAt : ExpiryTime)
    (nonce : List UInt8) (configured : secret ≠ "") :
    GivesBack digest secret nodeId expiresAt nonce ↔
      Recoverable digest secret nodeId expiresAt nonce := by
  have issued : issueToken digest secret nodeId expiresAt nonce =
      some (b64 (tokenBody nodeId expiresAt nonce ++
        0x3A :: tokenSignature digest secret nodeId expiresAt nonce)) := if_neg configured
  constructor
  · rintro ⟨token, isToken, verified⟩
    obtain rfl := Option.some.inj (issued.symm.trans isToken)
    -- One moment before the expiry is enough.
    have before := verified (expiresAt.instant - 1) (sub_one_lt _)
    obtain ⟨parts, isParts⟩ := exists_tokenParts before
    obtain ⟨node, signed⟩ := noColons_of_tokenParts isParts
    rw [verifyToken_b64 node signed] at before
    split at before
    · cases before
    · obtain ⟨-, expiry⟩ := Prod.mk.inj (Option.some.inj before)
      exact ⟨node, signed, expiry⟩
  · rintro ⟨node, signed, expiry⟩
    refine ⟨_, issued, ?_⟩
    intro now before
    rw [verifyToken_b64 node signed, expiry, if_neg (not_lt.mpr before.le)]

end Parts

/-- The start of the year 2100 in UTC. -/
def year2100 : ExpiryTime := ⟨4102444800000000, 0, by decide⟩

/-- A token with a signature of 32 zeros gives back what it was issued for. -/
theorem givesBack_zeros :
    GivesBack (fun _ _ => List.replicate 32 0) "s" "node-1" year2100 (List.replicate 8 0) :=
  (givesBack_iff _ _ _ _ (by decide)).mpr ⟨by decide, by decide +kernel, by decide⟩

/-- A token whose signature has the byte of a colon is refused. -/
theorem not_givesBack_colonByte :
    ¬ GivesBack (fun _ _ => List.replicate 31 0 ++ [0x3A]) "s" "node-1" year2100
      (List.replicate 8 0) := by
  rintro ⟨token, isToken, verified⟩
  have refused : (issueToken (fun _ _ => List.replicate 31 0 ++ [0x3A]) "s" "node-1" year2100
      (List.replicate 8 0)).bind (verifyToken (fun _ => List.replicate 31 0 ++ [0x3A]) 0) = none := by
    decide +kernel
  rw [isToken, Option.bind_some] at refused
  have good := verified 0 (by decide)
  rw [refused] at good
  cases good

end Security
end K1s
