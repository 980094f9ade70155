import Mathlib.Data.List.Basic
import NetProbe.SecurityProofs

/-!
# The verdict on an address

`is_blocked_ip` compares the text it is given with three metadata addresses before it parses
it.  An IPv4 address has one text only (`ipv4Address_text`: no leading zeros, four octets), so
the comparison with an IPv4 metadata text is a comparison of addresses, and the one IPv6 text
of the list is a private address anyway.  The answer is therefore a function of the parsed
address (`isBlockedIp_of_parsed`): `blockedAddr`.

Over it the two questions about the deny rule: a blocked IPv4 address stays blocked as an
IPv4-mapped IPv6 address in every spelling, whichever patch release classifies mapped
addresses; and among the addresses that are not globally reachable (`isGlobal`) the rule
leaves out the shared address space alone.
-/

namespace NetProbeAddressVerdict

open NetProbePyText NetProbeUrlSplit NetProbeConfig NetProbeIpAddress NetProbeSecurity

-- ── The text of an IPv4 address ───────────────────────────────────────────────────

theorem isAscii_of_isAsciiDigit {c : Char} (h : isAsciiDigit c = true) : isAscii c = true := by
  simp only [isAsciiDigit, Bool.and_eq_true, decide_eq_true_eq] at h
  exact isAscii_of_le h.2 (by decide)

/-- A digit is the digit character of its value. -/
theorem digitChar_decVal {c : Char} (h : isAsciiDigit c = true) :
    decVal c < 10 ∧ Nat.digitChar (decVal c) = c := by
  have hall : ∀ n < 128, isAsciiDigit (Char.ofNat n) = true →
      decVal (Char.ofNat n) < 10 ∧ Nat.digitChar (decVal (Char.ofNat n)) = Char.ofNat n := by
    decide +kernel
  exact ascii_cases (P := fun c => isAsciiDigit c = true →
    decVal c < 10 ∧ Nat.digitChar (decVal c) = c) hall (isAscii_of_isAsciiDigit h) h

/-- Reading further digits behind a positive number writes them behind its text. -/
theorem toDigits_foldl {s : Str} (hs : ∀ c ∈ s, isAsciiDigit c = true) {acc : Nat} (ha : 0 < acc) :
    Nat.toDigits 10 acc ++ s = Nat.toDigits 10 (s.foldl (fun n c => n * 10 + decVal c) acc) := by
  induction s generalizing acc with
  | nil => simp
  | cons c cs ih =>
      obtain ⟨hlt, hchar⟩ := digitChar_decVal (hs c (List.mem_cons_self ..))
      have hstep : Nat.toDigits 10 acc ++ [c] = Nat.toDigits 10 (acc * 10 + decVal c) := by
        have happ := Nat.toDigits_append_toDigits (b := 10) (n := acc) (d := decVal c)
          (by omega) ha hlt
        rw [Nat.toDigits_of_lt_base hlt, hchar, Nat.mul_comm] at happ
        exact happ
      have hpos : 0 < acc * 10 + decVal c := by omega
      have htail := ih (fun x hx => hs x (List.mem_cons_of_mem _ hx)) hpos
      calc Nat.toDigits 10 acc ++ c :: cs
          = (Nat.toDigits 10 acc ++ [c]) ++ cs := by simp
        _ = Nat.toDigits 10 (acc * 10 + decVal c) ++ cs := by rw [hstep]
        _ = _ := htail

/-- Digits without a leading zero are the decimal text of the number they stand for. -/
theorem toDigits_digitsToNat {s : Str} (hs : ∀ c ∈ s, isAsciiDigit c = true) (hne : s ≠ [])
    (hz : s = ['0'] ∨ s.head? ≠ some '0') : Nat.toDigits 10 (digitsToNat 10 decVal s) = s := by
  cases s with
  | nil => exact absurd rfl hne
  | cons c cs =>
      rcases hz with hz | hz
      · rw [hz]
        decide
      · obtain ⟨hlt, hchar⟩ := digitChar_decVal (hs c (List.mem_cons_self ..))
        have hpos : 0 < decVal c := by
          rcases Nat.eq_zero_or_pos (decVal c) with h0 | h0
          · rw [h0] at hchar
            exact absurd (congrArg some hchar.symm) hz
          · exact h0
        have hrest := toDigits_foldl (fun x hx => hs x (List.mem_cons_of_mem _ hx)) hpos
        rw [Nat.toDigits_of_lt_base hlt, hchar] at hrest
        show Nat.toDigits 10 (cs.foldl (fun n c => n * 10 + decVal c) (0 * 10 + decVal c)) = c :: cs
        rw [Nat.zero_mul, Nat.zero_add, ← hrest]
        rfl

/-- An octet is a byte in its decimal text. -/
theorem parseOctet_text {s : Str} {k : Nat} (h : parseOctet s = some k) :
    s = Nat.toDigits 10 k ∧ k < 256 := by
  rw [parseOctet] at h
  split at h
  · cases h
  · rename_i hne
    split at h
    · cases h
    · rename_i hdigits
      split at h
      · cases h
      · split at h
        · cases h
        · rename_i hzero
          split at h
          · cases h
          · rename_i hle
            have hk := Option.some.inj h
            rw [Bool.not_eq_true, Bool.not_eq_false', List.all_eq_true] at hdigits
            rw [Bool.and_eq_true, decide_eq_true_eq, decide_eq_true_eq] at hzero
            have hz : s = ['0'] ∨ s.head? ≠ some '0' := by
              by_cases he : s = ['0']
              · exact Or.inl he
              · exact Or.inr fun hh => hzero ⟨he, hh⟩
            rw [← hk]
            refine ⟨(toDigits_digitsToNat hdigits hne hz).symm, by omega⟩

/-- **An IPv4 address has one text.** What parses as the address `n` is the dotted text of
    `n`, a number below `2 ^ 32`. -/
theorem ipv4Address_text {s : Str} {n : Nat} (h : ipv4Address s = some n) :
    s = ipv4Str n ∧ n < 2 ^ 32 := by
  unfold ipv4Address at h
  split at h
  · cases h
  · split at h
    · cases h
    · have hjoin : ['.'].intercalate (split '.' s) = s := List.intercalate_splitOn _
      dsimp only at h
      generalize split '.' s = octets at h hjoin
      split at h
      · cases h
      · rename_i hlen
        rw [ne_eq, not_not] at hlen
        match octets, hlen with
        | [o₁, o₂, o₃, o₄], _ =>
            simp only [octetsToInt, List.mapM_cons, List.mapM_nil, Option.pure_def,
              Option.bind_eq_bind, Option.map_eq_some_iff, Option.bind_eq_some_iff,
              Option.some.injEq] at h
            obtain
              ⟨ns, ⟨a, h₁, rest, ⟨b, h₂, rest', ⟨c, h₃, rest'', ⟨d, h₄, _, rfl, rfl⟩, rfl⟩, rfl⟩,
              rfl⟩, hn⟩ := h
            obtain ⟨t₁, l₁⟩ := parseOctet_text h₁
            obtain ⟨t₂, l₂⟩ := parseOctet_text h₂
            obtain ⟨t₃, l₃⟩ := parseOctet_text h₃
            obtain ⟨t₄, l₄⟩ := parseOctet_text h₄
            simp only [List.foldl_cons, List.foldl_nil] at hn
            have e₁ : n / 16777216 % 256 = a := by omega
            have e₂ : n / 65536 % 256 = b := by omega
            have e₃ : n / 256 % 256 = c := by omega
            have e₄ : n % 256 = d := by omega
            refine ⟨?_, by omega⟩
            show s = ['.'].intercalate _
            rw [e₁, e₂, e₃, e₄, ← t₁, ← t₂, ← t₃, ← t₄]
            exact hjoin.symm

theorem ipAddress_v4_text {s : Str} {n : Nat} (h : ipAddress s = some (.v4 n)) :
    s = ipv4Str n ∧ n < 2 ^ 32 := by
  rw [ipAddress] at h
  cases hs : ipv4Address s with
  | some m =>
      rw [hs] at h
      cases h
      exact ipv4Address_text hs
  | none =>
      rw [hs] at h
      cases hm : ipv6Address s with
      | none => rw [hm] at h; cases h
      | some r => rw [hm] at h; cases h

-- ── The verdict on a parsed address ───────────────────────────────────────────────

/-- The verdict on an IPv4 address: a special range, or the metadata address that lies in
    none of them. -/
def blockedV4 (py : Python) (n : Nat) : Bool :=
  isSpecial py (.v4 n) || n = quad 100 100 100 200

/-- The IPv4 address that an address embeds, for `is_blocked_ip`. -/
def embedded : IpAddr → Option Nat
  | .v4 _ => none
  | .v6 n _ => ipv4Mapped n

/-- The verdict on a parsed address, without its text. -/
def blockedAddr (py : Python) : IpAddr → Bool
  | .v4 n => blockedV4 py n
  | .v6 n scope => isSpecial py (.v6 n scope) || (ipv4Mapped n).any (blockedV4 py)

/-- The metadata texts and what they parse to. -/
theorem metadata_cases {s : Str} (h : metadataAddresses.contains s = true) :
    ipAddress s = some (.v4 (quad 169 254 169 254)) ∨
      ipAddress s = some (.v4 (quad 100 100 100 200)) ∨
        ipAddress s = some (.v6 (0xfd000ec2 * 2 ^ 96 + 0x254) none) := by
  have hmem := List.contains_iff_mem.mp h
  simp only [metadataAddresses, List.mem_cons, List.not_mem_nil, or_false] at hmem
  rcases hmem with rfl | rfl | rfl
  · exact Or.inl (by decide +kernel)
  · exact Or.inr (Or.inl (by decide +kernel))
  · exact Or.inr (Or.inr (by decide +kernel))

/-- The IPv6 metadata address is a unique local address. -/
theorem isSpecial_metadataV6 (py : Python) (scope : Option Str) :
    isSpecial py (.v6 (0xfd000ec2 * 2 ^ 96 + 0x254) scope) = true := by
  have hp : isPrivate (.v6 (0xfd000ec2 * 2 ^ 96 + 0x254) scope) = true := by
    show isPrivate (.v6 (0xfd000ec2 * 2 ^ 96 + 0x254) none) = true
    decide +kernel
  rw [isSpecial]
  rw [hp, Bool.or_true]

theorem isBlockedIp_metadata {py : Python} {s : Str} (h : metadataAddresses.contains s = true) :
    isBlockedIp py s = true := by
  rw [isBlockedIp_eq]
  rw [isBlockedStep]
  rw [if_pos h]

/-- Outside the metadata list a text is judged by the address it parses to. -/
theorem isBlockedIp_parsed {py : Python} {s : Str} {a : IpAddr}
    (hs : ¬ metadataAddresses.contains s = true) (h : ipAddress s = some a) :
    isBlockedIp py s =
      (isSpecial py a || (embedded a).any fun m => isBlockedIp py (ipv4Str m)) := by
  rw [isBlockedIp_eq]
  rw [isBlockedStep]
  rw [if_neg hs, h]
  dsimp only
  cases hsp : isSpecial py a with
  | true => rfl
  | false =>
      rw [if_neg Bool.false_ne_true, Bool.false_or]
      cases a with
      | v4 n => rfl
      | v6 n scope =>
          rw [embedded]
          dsimp only
          cases ipv4Mapped n with
          | none => rfl
          | some m => rfl

theorem blockedV4_of_text {py : Python} {s : Str} {n : Nat} (h : ipAddress s = some (.v4 n)) :
    isBlockedIp py s = blockedV4 py n := by
  by_cases hs : metadataAddresses.contains s = true
  · rw [isBlockedIp_metadata hs]
    rcases metadata_cases hs with h' | h' | h'
    · rw [h] at h'
      cases h'
      rfl
    · rw [h] at h'
      cases h'
      rw [blockedV4]
      rw [decide_eq_true rfl, Bool.or_true]
    · rw [h] at h'
      cases h'
  · have hn : n ≠ quad 100 100 100 200 := by
      rintro rfl
      apply hs
      rw [(ipAddress_v4_text h).1]
      decide +kernel
    rw [isBlockedIp_parsed hs h]
    rw [blockedV4]
    rw [decide_eq_false hn]
    rfl

theorem ipv4Mapped_lt {n m : Nat} (h : ipv4Mapped n = some m) : m < 2 ^ 32 := by
  rw [ipv4Mapped] at h
  split at h
  · cases h
  · rw [← Option.some.inj h]
    exact Nat.mod_lt _ (by decide)

/-- **The verdict is one on addresses.** For every text that parses, `is_blocked_ip` answers
    what `blockedAddr` says of the address. -/
theorem isBlockedIp_of_parsed (py : Python) {s : Str} {a : IpAddr} (h : ipAddress s = some a) :
    isBlockedIp py s = blockedAddr py a := by
  cases a with
  | v4 n => exact blockedV4_of_text h
  | v6 n scope =>
      by_cases hs : metadataAddresses.contains s = true
      · rw [isBlockedIp_metadata hs]
        rcases metadata_cases hs with h' | h' | h'
        · rw [h] at h'
          cases h'
        · rw [h] at h'
          cases h'
        · rw [h] at h'
          cases h'
          unfold blockedAddr
          dsimp only
          rw [isSpecial_metadataV6, Bool.true_or]
      · rw [isBlockedIp_parsed hs h]
        unfold embedded blockedAddr
        dsimp only
        cases hm : ipv4Mapped n with
        | none => rfl
        | some m =>
            rw [Option.any_some, Option.any_some,
              blockedV4_of_text (ipAddress_ipv4Str (ipv4Mapped_lt hm))]

-- ── Mapped addresses ──────────────────────────────────────────────────────────────

/-- The number of `::ffff:a`. -/
def mappedOf (a : Nat) : Nat := 0xffff * 2 ^ 32 + a

theorem ipv4Mapped_mappedOf {a : Nat} (h : a < 2 ^ 32) : ipv4Mapped (mappedOf a) = some a := by
  have hdiv : mappedOf a / 2 ^ 32 = 0xffff := by unfold mappedOf; omega
  have hmod : mappedOf a % 2 ^ 32 = a := by unfold mappedOf; omega
  rw [ipv4Mapped]
  rw [hdiv, hmod, if_neg (not_not.mpr rfl)]

/-- A mapped address is blocked when its embedded address is, in either patch release. -/
theorem blockedAddr_mapped {py : Python} {a : Nat} (h : a < 2 ^ 32) (hb : blockedV4 py a = true)
    (scope : Option Str) : blockedAddr py (.v6 (mappedOf a) scope) = true := by
  show (isSpecial py _ || (ipv4Mapped (mappedOf a)).any (blockedV4 py)) = true
  rw [ipv4Mapped_mappedOf h, Option.any_some, hb, Bool.or_true]

/-- **The verdict does not depend on the spelling.** Two texts of one address get one answer;
    and when an IPv4 address is blocked, so is every text of its mapped IPv6 address. -/
theorem isBlockedIp_spelling (py : Python) :
    (∀ (s t : Str) (a : IpAddr), ipAddress s = some a → ipAddress t = some a →
      isBlockedIp py s = isBlockedIp py t) ∧
    (∀ (t : Str) (a : Nat), ipAddress t = some (.v4 a) → isBlockedIp py t = true →
      ∀ (s : Str) (scope : Option Str), ipAddress s = some (.v6 (0xffff * 2 ^ 32 + a) scope) →
        isBlockedIp py s = true) := by
  constructor
  · intro s t a hs ht
    rw [isBlockedIp_of_parsed py hs, isBlockedIp_of_parsed py ht]
  · intro t a ht hb s scope hs
    have ha : a < 2 ^ 32 := (ipAddress_v4_text ht).2
    rw [isBlockedIp_of_parsed py ht] at hb
    rw [isBlockedIp_of_parsed py hs]
    exact blockedAddr_mapped ha hb scope

theorem isBlockedIp_spelling_metadata :
    isBlockedIp Python.asciiOnly (str "::ffff:6464:64c8") = true :=
  (isBlockedIp_spelling Python.asciiOnly).2 (str "100.100.100.200") (quad 100 100 100 200)
    (by decide +kernel) (by decide +kernel) (str "::ffff:6464:64c8") none (by decide +kernel)

-- ── Addresses that are not globally reachable ─────────────────────────────────────

/-- `_IPv4Constants._public_network`, the shared address space. -/
def sharedNetwork : Nat × Nat := (quad 100 64 0 0, 10)

/-- `IPv4Address.is_global` -/
def ipv4IsGlobal (n : Nat) : Bool := !inNetwork 32 n sharedNetwork && !ipv4IsPrivate n

/-- `addr.is_global`; the later patch releases delegate it for mapped addresses. -/
def isGlobal (py : Python) : IpAddr → Bool
  | .v4 n => ipv4IsGlobal n
  | .v6 n scope => delegated py ipv4IsGlobal (fun _ => !isPrivate (.v6 n scope)) n

/-- The IPv4 address that an address is or embeds. -/
def ipv4Part : IpAddr → Option Nat
  | .v4 n => some n
  | .v6 n _ => ipv4Mapped n

/-- Membership in the shared address space, directly or as a mapped address. -/
def inShared (a : IpAddr) : Bool := (ipv4Part a).any fun n => inNetwork 32 n sharedNetwork

theorem isSpecial_of_isPrivate {py : Python} {a : IpAddr} (h : isPrivate a = true) :
    isSpecial py a = true := by
  rw [isSpecial]
  rw [h, Bool.or_true]

/-- A non-global address outside the shared space is private. -/
theorem isPrivate_of_not_global {py : Python} {a : IpAddr} (hg : isGlobal py a = false)
    (hs : inShared a = false) : isPrivate a = true := by
  cases a with
  | v4 n =>
      have hn : inNetwork 32 n sharedNetwork = false := hs
      have hg' : (!inNetwork 32 n sharedNetwork && !ipv4IsPrivate n) = false := hg
      rw [hn, Bool.not_false, Bool.true_and, Bool.not_eq_false'] at hg'
      exact hg'
  | v6 n scope =>
      have hn : (ipv4Mapped n).any (fun m => inNetwork 32 m sharedNetwork) = false := hs
      have hg' : delegated py ipv4IsGlobal (fun _ => !isPrivate (.v6 n scope)) n = false := hg
      rw [delegated] at hg'
      cases hm : ipv4Mapped n with
      | none =>
          rw [hm] at hg'
          rw [Bool.not_eq_false'] at hg'
          exact hg'
      | some m =>
          rw [hm] at hg' hn
          rw [Option.any_some] at hn
          dsimp only at hg'
          split at hg'
          · rw [ipv4IsGlobal] at hg'
            rw [hn, Bool.not_false, Bool.true_and, Bool.not_eq_false'] at hg'
            unfold isPrivate
            dsimp only
            rw [hm]
            exact hg'
          · rw [Bool.not_eq_false'] at hg'
            exact hg'

/-- The first address of a network and the first one behind it. -/
def bounds (width : Nat) (net : Nat × Nat) : Nat × Nat :=
  let size := 2 ^ (width - net.2)
  (net.1 / size * size, (net.1 / size + 1) * size)

/-- One network ends before the other begins. -/
def apart (width : Nat) (net net' : Nat × Nat) : Bool :=
  (bounds width net).2 ≤ (bounds width net').1 || (bounds width net').2 ≤ (bounds width net).1

theorem inNetwork_bounds {width n : Nat} {net : Nat × Nat} (h : inNetwork width n net = true) :
    (bounds width net).1 ≤ n ∧ n < (bounds width net).2 := by
  have hq : n / 2 ^ (width - net.2) = net.1 / 2 ^ (width - net.2) := of_decide_eq_true h
  have hpos : 0 < 2 ^ (width - net.2) := Nat.pow_pos (by omega)
  rw [bounds]
  dsimp only
  rw [← hq]
  exact ⟨Nat.div_mul_le_self _ _, by rw [Nat.mul_comm]; exact Nat.lt_mul_div_succ _ hpos⟩

/-- An address of one network is in none that stands apart from it. -/
theorem not_inNetwork_of_apart {width n : Nat} {net net' : Nat × Nat}
    (hapart : apart width net net' = true) (h : inNetwork width n net = true) :
    inNetwork width n net' = false := by
  cases h' : inNetwork width n net' with
  | false => rfl
  | true =>
      have hb := inNetwork_bounds h
      have hb' := inNetwork_bounds h'
      rw [apart] at hapart
      rw [Bool.or_eq_true, decide_eq_true_eq, decide_eq_true_eq] at hapart
      omega

/-- No network of the private table meets the shared address space. -/
theorem not_private_of_shared {n : Nat} (h : inNetwork 32 n sharedNetwork = true) :
    ipv4IsPrivate n = false := by
  have hapart : ∀ net ∈ ipv4PrivateNetworks, apart 32 sharedNetwork net = true := by decide
  have hany : ipv4PrivateNetworks.any (inNetwork 32 n) = false := by
    rw [List.any_eq_false]
    intro net hnet
    rw [not_inNetwork_of_apart (hapart net hnet) h]
    exact Bool.false_ne_true
  rw [ipv4IsPrivate]
  rw [hany, Bool.false_and]

/-- The shared address space is no special range of IPv4. -/
theorem not_special_of_shared (py : Python) {n : Nat} (h : inNetwork 32 n sharedNetwork = true) :
    isSpecial py (.v4 n) = false := by
  have hloop : ipv4IsLoopback n = false := not_inNetwork_of_apart (by decide) h
  have hlink : ipv4IsLinkLocal n = false := not_inNetwork_of_apart (by decide) h
  have hmulti : ipv4IsMulticast n = false := not_inNetwork_of_apart (by decide) h
  have hres : ipv4IsReserved n = false := not_inNetwork_of_apart (by decide) h
  have hunspec : ipv4IsUnspecified n = false := by
    have hpos : 0 < (bounds 32 sharedNetwork).1 := by decide
    have hn := inNetwork_bounds h
    exact decide_eq_false (by omega)
  show (ipv4IsLoopback n || ipv4IsLinkLocal n || ipv4IsMulticast n || ipv4IsReserved n ||
    ipv4IsUnspecified n || ipv4IsPrivate n) = false
  rw [hloop, hlink, hmulti, hres, hunspec, not_private_of_shared h]
  rfl

/-- Of the shared address space the verdict blocks the metadata address alone. -/
theorem blockedV4_shared (py : Python) {n : Nat} (h : inNetwork 32 n sharedNetwork = true) :
    blockedV4 py n = decide (n = quad 100 100 100 200) := by
  rw [blockedV4]
  rw [not_special_of_shared py h, Bool.false_or]

/-- The later patch releases judge a mapped address as the embedded one. -/
theorem isSpecial_mapped {py : Python} (hpy : py.mappedDelegates = true) {n m : Nat}
    (hm : ipv4Mapped n = some m) (scope : Option Str) :
    isSpecial py (.v6 n scope) = isSpecial py (.v4 m) := by
  have hdel : ∀ on4 on6, delegated py on4 on6 n = on4 m := by
    intro on4 on6
    unfold delegated
    rw [hm]
    dsimp only
    rw [if_pos hpy]
  have hpriv : isPrivate (.v6 n scope) = isPrivate (.v4 m) := by
    simp only [isPrivate, hm]
  unfold isSpecial
  rw [hpriv]
  simp only [isLoopback, isLinkLocal, isMulticast, isReserved, isUnspecified, hdel]

/-- The earlier patch releases find a mapped address of the shared space globally reachable. -/
theorem mappedDelegates_of_shared {py : Python} {n m : Nat} {scope : Option Str}
    (hm : ipv4Mapped n = some m) (hs : inNetwork 32 m sharedNetwork = true)
    (hg : isGlobal py (.v6 n scope) = false) : py.mappedDelegates = true := by
  cases hpy : py.mappedDelegates with
  | true => rfl
  | false =>
      have hg' : delegated py ipv4IsGlobal (fun _ => !isPrivate (.v6 n scope)) n = false := hg
      rw [delegated] at hg'
      rw [hm] at hg'
      dsimp only at hg'
      rw [hpy, if_neg Bool.false_ne_true, Bool.not_eq_false'] at hg'
      have hpriv : isPrivate (.v6 n scope) = ipv4IsPrivate m := by
        simp only [isPrivate, hm]
      rw [hpriv, not_private_of_shared hs] at hg'
      cases hg'

/-- The verdict on an address of the shared space that is not globally reachable. -/
theorem blockedAddr_shared {py : Python} {a : IpAddr} (hg : isGlobal py a = false)
    (hs : inShared a = true) :
    blockedAddr py a = true ↔ ipv4Part a = some (quad 100 100 100 200) := by
  cases a with
  | v4 n =>
      show blockedV4 py n = true ↔ some n = some _
      rw [blockedV4_shared py hs, decide_eq_true_iff, Option.some.injEq]
  | v6 n scope =>
      have hs' : (ipv4Mapped n).any (fun m => inNetwork 32 m sharedNetwork) = true := hs
      cases hm : ipv4Mapped n with
      | none =>
          rw [hm] at hs'
          cases hs'
      | some m =>
          rw [hm, Option.any_some] at hs'
          have hpy := mappedDelegates_of_shared hm hs' hg
          show (isSpecial py (.v6 n scope) || (ipv4Mapped n).any (blockedV4 py)) = true ↔
            ipv4Mapped n = some _
          rw [isSpecial_mapped hpy hm, not_special_of_shared py hs', Bool.false_or, hm,
            Option.any_some, blockedV4_shared py hs', decide_eq_true_iff, Option.some.injEq]

/-- What `assert_ip_allowed` does with the verdict when private targets are not allowed. -/
theorem assertIpAllowed_iff {py : Python} {settings : Settings} {s : Str}
    (h : settings.allow_private_targets = false) :
    isBlockedIp py s = true ↔ assertIpAllowed py settings s =
      .error (.targetNotAllowedError (str "허용되지 않은 대상 주소입니다: " ++ s)) := by
  rw [assertIpAllowed]
  rw [h, if_neg Bool.false_ne_true]
  cases isBlockedIp py s with
  | true => exact ⟨fun _ => rfl, fun _ => rfl⟩
  | false => exact ⟨fun hf => (nomatch hf), fun hf => (nomatch hf)⟩

/-- **Only the shared address space escapes the deny rule.** An address that is not globally
    reachable is blocked, and refused when private targets are not allowed, unless it lies in
    the shared address space; there the metadata address alone is blocked. -/
theorem blocked_of_not_global (py : Python) (settings : Settings) {s : Str} {a : IpAddr}
    (hs : ipAddress s = some a) (hg : isGlobal py a = false) :
    (isBlockedIp py s = true ↔
      inShared a = false ∨ ipv4Part a = some (quad 100 100 100 200)) ∧
    (settings.allow_private_targets = false →
      (assertIpAllowed py settings s =
        .error (.targetNotAllowedError (str "허용되지 않은 대상 주소입니다: " ++ s)) ↔
      inShared a = false ∨ ipv4Part a = some (quad 100 100 100 200))) := by
  have hverdict : isBlockedIp py s = true ↔
      inShared a = false ∨ ipv4Part a = some (quad 100 100 100 200) := by
    rw [isBlockedIp_of_parsed py hs]
    cases hin : inShared a with
    | false =>
        have hsp : isSpecial py a = true := isSpecial_of_isPrivate (isPrivate_of_not_global hg hin)
        refine ⟨fun _ => Or.inl rfl, fun _ => ?_⟩
        cases a with
        | v4 n =>
            show (isSpecial py (.v4 n) || _) = true
            rw [hsp, Bool.true_or]
        | v6 n scope =>
            show (isSpecial py (.v6 n scope) || _) = true
            rw [hsp, Bool.true_or]
    | true =>
        rw [blockedAddr_shared hg hin]
        exact ⟨Or.inr, fun h => h.resolve_left fun hf => nomatch hf⟩
  refine ⟨hverdict, fun hpt => ?_⟩
  rw [← assertIpAllowed_iff hpt]
  exact hverdict

/-- An address that is not globally reachable is blocked in every form. -/
theorem non_global_not_blocked :
    ¬ ∀ (py : Python) (settings : Settings) (s : Str) (a : IpAddr), ipAddress s = some a →
      isGlobal py a = false → isBlockedIp py s = true ∧
        (settings.allow_private_targets = false →
          ∃ m, assertIpAllowed py settings s = .error (.targetNotAllowedError m)) := by
  intro hclaim
  have hblocked := (hclaim Python.asciiOnly {} (str "100.64.0.1") (.v4 (quad 100 64 0 1))
    (by decide +kernel) (by decide +kernel)).1
  have hopen : isBlockedIp Python.asciiOnly (str "100.64.0.1") = false := by decide +kernel
  rw [hopen] at hblocked
  cases hblocked

theorem blocked_of_not_global_loopback :
    (isBlockedIp Python.asciiOnly (str "::1") = true ↔
      inShared (.v6 1 none) = false ∨ ipv4Part (.v6 1 none) = some (quad 100 100 100 200)) ∧
    (({} : Settings).allow_private_targets = false →
      (assertIpAllowed Python.asciiOnly {} (str "::1") =
        .error (.targetNotAllowedError (str "허용되지 않은 대상 주소입니다: " ++ str "::1")) ↔
      inShared (.v6 1 none) = false ∨ ipv4Part (.v6 1 none) = some (quad 100 100 100 200))) :=
  blocked_of_not_global Python.asciiOnly {} (by decide +kernel) (by decide +kernel)

end NetProbeAddressVerdict
