import Kawin.Kasvc.ConfigDefaults
import Mathlib.Algebra.Ring.Int.Defs
import Mathlib.Data.List.TakeWhile

/-!
# The numbers of a configuration file

Each number of a configuration file has a conversion of its own.  The port is cast to 16 bits; the
size of the event queue is cast to an `int`, whatever the field it is for, and sign-extended to a
`size_t`; and the worker threads are strings for `std::stoul`, which negates behind a minus sign
and does not mind what follows the digits.  No conversion checks that the number is still the same.

`numbersKept_iff` says which numbers are.  That the size of the queue goes through an `int` also
keeps the very largest sizes, which come out of it as they went in.
-/

namespace Kawin.Kasvc

open Json

/-! ## Numbers in a file -/

/-- The integer of a JSON number. -/
def integerOf : Json → Option ℤ
  | .unsigned n => some n
  | .integer i => some i
  | _ => none

/-- What stands in a file for the four numbers of a configuration. -/
structure FileNumbers where
  port : ℤ
  queueSize : ℤ
  serviceThreads : String
  driverThreads : String

/-- The file has all four. -/
structure HasNumbers (j : Json) (numbers : FileNumbers) : Prop where
  port : (memberOf j "grpc" "port").bind integerOf = some numbers.port
  queueSize :
    (memberOf j "event_streaming" "max_queue_size").bind integerOf = some numbers.queueSize
  serviceThreads :
    memberOf j "service" "worker_threads" = some (.string numbers.serviceThreads)
  driverThreads : memberOf j "driver" "worker_threads" = some (.string numbers.driverThreads)

def hasMinus (s : String) : Bool := (s.toList.dropWhile isSpace).head? == some '-'

/-- A string behind its white space and its sign. -/
def unsignedPart (s : String) : List Char :=
  let text := s.toList.dropWhile isSpace
  if hasMinus s || text.head? == some '+' then text.tail else text

/-- A string is an integer in decimal: white space, a sign, digits, and nothing else. -/
structure Numeral (s : String) (k : ℤ) : Prop where
  nonempty : unsignedPart s ≠ []
  digits : ∀ c ∈ unsignedPart s, c.isDigit = true
  value : k = if hasMinus s then -(Nat.ofDigitChars 10 (unsignedPart s) 0 : ℤ)
    else Nat.ofDigitChars 10 (unsignedPart s) 0

/-! ## What a configuration should make of them -/

/-- The worker threads are those of the string. -/
def ThreadsAre (host : Host) (s : String) (threads : BitVec 64) : Prop :=
  if s = "auto" then threads = host.hardwareConcurrency.setWidth 64
  else ∃ k, Numeral s k ∧ (threads.toNat : ℤ) = k

/-- The four fields are the integers written in the file. -/
structure AsWritten (host : Host) (numbers : FileNumbers) (config : Configuration) : Prop where
  port : (config.grpcPort.toNat : ℤ) = numbers.port
  queueSize : (config.eventQueueSize.toNat : ℤ) = numbers.queueSize
  serviceThreads : ThreadsAre host numbers.serviceThreads config.serviceWorkerThreads
  driverThreads : ThreadsAre host numbers.driverThreads config.workerThreads

/-- A string that is no number of worker threads: it is not a decimal integer, or one that is
negative or too large. -/
def ThreadsUnfit (s : String) : Prop :=
  s ≠ "auto" ∧ ∀ k, Numeral s k → k < 0 ∨ 2 ^ 64 ≤ k

/-- Some number does not fit its field. -/
def Unfit (numbers : FileNumbers) : Prop :=
  (numbers.port < 0 ∨ 2 ^ 16 ≤ numbers.port) ∨
    (numbers.queueSize < 0 ∨ 2 ^ 64 ≤ numbers.queueSize) ∨
    ThreadsUnfit numbers.serviceThreads ∨ ThreadsUnfit numbers.driverThreads

/-- No number is altered: `Load` returns the numbers of the file, or an error where they do
not fit. -/
structure NumbersKept (host : Host) (unassigned : Unassigned) (calls : LoadCalls)
    (text : List Char) (numbers : FileNumbers) : Prop where
  written : ∀ config, load host unassigned calls (some text) = .ok config →
    AsWritten host numbers config
  refused : Unfit numbers → ∃ error, load host unassigned calls (some text) = .error error

/-! ## What it makes of them -/

/-- "auto", or a decimal integer that is not negative. -/
def ThreadsFit (s : String) : Prop := s = "auto" ∨ ∃ k, Numeral s k ∧ 0 ≤ k

/-- The numbers that the conversions leave alone. -/
structure NumbersFit (numbers : FileNumbers) : Prop where
  port : 0 ≤ numbers.port ∧ numbers.port < 2 ^ 16
  queueSize : (0 ≤ numbers.queueSize ∧ numbers.queueSize < 2 ^ 31) ∨
    (2 ^ 64 - 2 ^ 31 ≤ numbers.queueSize ∧ numbers.queueSize < 2 ^ 64)
  serviceThreads : ThreadsFit numbers.serviceThreads
  driverThreads : ThreadsFit numbers.driverThreads

theorem toNat_ofInt_iff (port : ℤ) :
    ((BitVec.ofInt 16 port).toNat : ℤ) = port ↔ 0 ≤ port ∧ port < 2 ^ 16 := by
  rw [BitVec.toNat_ofInt]
  omega

/-- The detour by an `int`. -/
theorem toNat_signExtend_iff (size : ℤ) :
    (((BitVec.ofInt 32 size).signExtend 64).toNat : ℤ) = size ↔
      (0 ≤ size ∧ size < 2 ^ 31) ∨ (2 ^ 64 - 2 ^ 31 ≤ size ∧ size < 2 ^ 64) := by
  rw [BitVec.signExtend, BitVec.toNat_ofInt, BitVec.toInt_ofInt, Int.bmod_def]
  omega

theorem stoul_ok {s : String} {n : ℕ} (h : stoul s = .ok n) :
    let m := Nat.ofDigitChars 10 ((unsignedPart s).takeWhile Char.isDigit) 0
    m < 2 ^ 32 ∧ n = if hasMinus s then (2 ^ 32 - m) % 2 ^ 32 else m := by
  intro m
  have hrun : stoul s = if ((unsignedPart s).takeWhile Char.isDigit).isEmpty then
      .error "invalid stoul argument"
    else if 2 ^ 32 ≤ m then .error "stoul argument out of range"
    else .ok (if hasMinus s then (2 ^ 32 - m) % 2 ^ 32 else m) := rfl
  rw [hrun] at h
  split_ifs at h with hempty hlarge hminus
  · exact ⟨Nat.lt_of_not_le hlarge, by rw [if_pos hminus]; exact (Except.ok.inj h).symm⟩
  · exact ⟨Nat.lt_of_not_le hlarge, by rw [if_neg hminus]; exact (Except.ok.inj h).symm⟩

/-- What `std::stoul` reads is what is written exactly where that is an integer and not
negative. -/
theorem stoul_exact_iff {s : String} {n : ℕ} (h : stoul s = .ok n) :
    (∃ k, Numeral s k ∧ (n : ℤ) = k) ↔ ∃ k, Numeral s k ∧ 0 ≤ k := by
  obtain ⟨hlt, hn⟩ := stoul_ok h
  constructor
  · rintro ⟨k, hk, rfl⟩
    exact ⟨n, hk, Int.natCast_nonneg n⟩
  · rintro ⟨k, hk, hnonneg⟩
    have hall : (unsignedPart s).takeWhile Char.isDigit = unsignedPart s :=
      List.takeWhile_eq_self_iff.mpr hk.digits
    rw [hall] at hlt hn
    refine ⟨k, hk, ?_⟩
    have hvalue := hk.value
    by_cases hminus : hasMinus s = true
    · -- a minus sign in front of zero
      rw [if_pos hminus] at hvalue hn
      omega
    · rw [if_neg hminus] at hvalue hn
      rw [hn, hvalue]

/-! ## The law -/

variable {host : Host} {unassigned : Unassigned} {calls : LoadCalls} {text : List Char} {j : Json}
  {numbers : FileNumbers} {config : Configuration}

theorem parseJson_of_load (h : load host unassigned calls (some text) = .ok config) :
    parseJson host unassigned text = .ok config := by
  rw [load] at h
  split at h
  · cases h
  · obtain ⟨config', hparse, h⟩ := bind_eq_ok.mp h
    obtain ⟨_, _, h⟩ := bind_eq_ok.mp h
    cases h
    exact hparse

/-- A number of the file, as the conversion gets to see it. -/
theorem readsAs_integer {α : Type} {convert : ℤ → α} {default a : α} {member : Option Json}
    {i : ℤ} (hmember : member.bind integerOf = some i)
    (h : ReadsAs (fun j => (getNumber host.format j).map convert) default member a) :
    a = convert i := by
  obtain ⟨value, rfl, hvalue⟩ := Option.bind_eq_some_iff.mp hmember
  have hnumber : getNumber host.format value = .ok i := by
    cases value with
    | unsigned n => exact congrArg _ (Option.some_inj.mp hvalue)
    | integer n => exact congrArg _ (Option.some_inj.mp hvalue)
    | _ => cases hvalue
  have hconvert : (getNumber host.format value).map convert = .ok a := h
  rw [hnumber] at hconvert
  exact (Except.ok.inj hconvert).symm

/-- The worker threads are what is written exactly where that fits. -/
theorem threadsAre_iff {s : String} {default threads : BitVec 64}
    (h : ReadsAs (threadsOf host) default (some (.string s)) threads) :
    ThreadsAre host s threads ↔ ThreadsFit s := by
  obtain ⟨s', hs, h⟩ := bind_eq_ok.mp (h : threadsOf host (.string s) = .ok threads)
  obtain rfl : s = s' := Except.ok.inj hs
  unfold ThreadsAre ThreadsFit
  by_cases hauto : s = "auto"
  · rw [if_pos hauto] at h ⊢
    exact iff_of_true (Except.ok.inj h).symm (Or.inl hauto)
  · rw [if_neg hauto] at h ⊢
    rw [or_iff_right hauto]
    obtain ⟨n, hn, h⟩ := bind_eq_ok.mp h
    have hstoul : stoul s = .ok n := by
      cases hs : stoul s with
      | error what =>
          rw [hs] at hn
          cases hn
      | ok m =>
          rw [hs] at hn
          exact congrArg _ (Except.ok.inj hn)
    have hthreads : threads.toNat = n := by
      obtain ⟨hlt, hn⟩ := stoul_ok hstoul
      rw [← Except.ok.inj h, BitVec.toNat_ofNat]
      apply Nat.mod_eq_of_lt
      split_ifs at hn
      · omega
      · omega
    rw [hthreads]
    exact stoul_exact_iff hstoul

/-- The four fields are right exactly where the numbers fit. -/
theorem asWritten_iff (hparsed : Parsed host unassigned j config) (h : HasNumbers j numbers) :
    AsWritten host numbers config ↔ NumbersFit numbers := by
  have hsection {section_ key : String} {member : Json}
      (hmember : memberOf j section_ key = some member) : (j.find section_).isSome := by
    obtain ⟨s, hs, _⟩ := Option.bind_eq_some_iff.mp hmember
    rw [hs]
    rfl
  obtain ⟨port, hport, _⟩ := Option.bind_eq_some_iff.mp h.port
  obtain ⟨size, hsize, _⟩ := Option.bind_eq_some_iff.mp h.queueSize
  have hportField := readsAs_integer h.port (hparsed.grpcPort.readsAs (hsection hport))
  have hsizeField := readsAs_integer h.queueSize (hparsed.eventQueueSize.readsAs (hsection hsize))
  have hservice := hparsed.serviceWorkerThreads.readsAs (hsection h.serviceThreads)
  have hdriver := hparsed.workerThreads.readsAs (hsection h.driverThreads)
  rw [h.serviceThreads] at hservice
  rw [h.driverThreads] at hdriver
  constructor
  · intro hwritten
    refine ⟨?_, ?_, (threadsAre_iff hservice).mp hwritten.serviceThreads,
      (threadsAre_iff hdriver).mp hwritten.driverThreads⟩
    · rw [← toNat_ofInt_iff, ← hportField]
      exact hwritten.port
    · rw [← toNat_signExtend_iff, ← hsizeField]
      exact hwritten.queueSize
  · intro hfit
    refine ⟨?_, ?_, (threadsAre_iff hservice).mpr hfit.serviceThreads,
      (threadsAre_iff hdriver).mpr hfit.driverThreads⟩
    · rw [hportField]
      exact (toNat_ofInt_iff _).mpr hfit.port
    · rw [hsizeField]
      exact (toNat_signExtend_iff _).mpr hfit.queueSize

/-- Where the fields are right, the numbers fit them. -/
theorem AsWritten.not_unfit (h : AsWritten host numbers config) : ¬Unfit numbers := by
  have hport := h.port
  have hsize := h.queueSize
  have hthreads {s : String} {threads : BitVec 64} (hs : ThreadsAre host s threads) :
      ¬ThreadsUnfit s := by
    rintro ⟨hauto, hnone⟩
    unfold ThreadsAre at hs
    rw [if_neg hauto] at hs
    obtain ⟨k, hk, hthreads⟩ := hs
    have hlt := threads.isLt
    rcases hnone k hk with hnegative | hlarge
    · omega
    · omega
  rintro (hunfit | hunfit | hunfit | hunfit)
  · have hlt := config.grpcPort.isLt
    omega
  · have hlt := config.eventQueueSize.isLt
    omega
  · exact hthreads h.serviceThreads hunfit
  · exact hthreads h.driverThreads hunfit

/-- **The numbers, exactly.**  Where `Load` succeeds, it has not altered any of the four numbers
if and only if they fit. -/
theorem numbersKept_iff (host : Host) (unassigned : Unassigned) (calls : LoadCalls)
    (text : List Char) (j : Json) (numbers : FileNumbers) (config : Configuration)
    (hj : Json.parse host.format text = .ok j) (hnumbers : HasNumbers j numbers)
    (hsucceeds : load host unassigned calls (some text) = .ok config) :
    NumbersKept host unassigned calls text numbers ↔ NumbersFit numbers := by
  have hiff := asWritten_iff (parsed_of_parseJson hj (parseJson_of_load hsucceeds)) hnumbers
  constructor
  · intro hkept
    exact hiff.mp (hkept.written config hsucceeds)
  · intro hfit
    have hwritten := hiff.mpr hfit
    constructor
    · intro config' hconfig
      obtain rfl : config = config' := Except.ok.inj (hsucceeds.symm.trans hconfig)
      exact hwritten
    · intro hunfit
      exact absurd hunfit hwritten.not_unfit

/-- A file with a port, 4 worker threads of the driver, and as many of the service as there are. -/
private def portFile (port : ℕ) : Json :=
  .object
    [("driver", .object [("worker_threads", .string "4")]),
      ("event_streaming", .object [("max_queue_size", .unsigned 10000)]),
      ("grpc", .object [("port", .unsigned port)]),
      ("service", .object [("worker_threads", .string "auto")])]

private def portText (port : ℕ) : List Char := Json.dump plainHost.format 2 (portFile port)

private def portNumbers (port : ℕ) : FileNumbers := ⟨port, 10000, "auto", "4"⟩

private theorem hasNumbers_portFile (port : ℕ) : HasNumbers (portFile port) (portNumbers port) :=
  ⟨rfl, rfl, rfl, rfl⟩

private theorem parse_portText {port : ℕ} (h : port < 2 ^ 64) :
    Json.parse plainHost.format (portText port) = .ok (portFile port) := by
  apply parse_dump
  refine .object _ (by simp [KeyBefore, precedes]) ?_
  simp only [List.forall_mem_cons, List.not_mem_nil, false_imp_iff, implies_true, and_true]
  refine ⟨.object _ (by simp) ?_, .object _ (by simp) ?_, .object _ (by simp) ?_,
    .object _ (by simp) ?_⟩
  all_goals
    simp only [List.forall_mem_cons, List.not_mem_nil, false_imp_iff, implies_true, and_true]
  · exact .string _
  · exact .unsigned _ (by decide)
  · exact .unsigned _ h
  · exact .string _

private def portConfiguration (port : ℤ) : Configuration :=
  ⟨"default", "winows_host", "KubeArmorUserService", "\\\\ScannerPort", "\\\\??\\\\Karmor",
    "0.0.0.0", BitVec.ofInt 16 port, 10000#64, 4#64, 8#64, "", ""⟩

private theorem load_portText {port : ℕ} (h : port < 2 ^ 64) :
    load plainHost ⟨0, 0, 0, 0⟩ .success (some (portText port)) =
      .ok (portConfiguration port) := by
  rw [load_success, parseJson, parse_portText h]
  rfl

theorem numbersKept_port :
    NumbersKept plainHost ⟨0, 0, 0, 0⟩ .success (portText 8080) (portNumbers 8080) ↔
      NumbersFit (portNumbers 8080) :=
  numbersKept_iff plainHost ⟨0, 0, 0, 0⟩ .success (portText 8080) (portFile 8080)
    (portNumbers 8080) (portConfiguration 8080) (parse_portText (by decide))
    (hasNumbers_portFile 8080) (load_portText (by decide))

/-- The port 70000 becomes 4464. -/
theorem not_numbersKept : ¬∀ host unassigned calls text j numbers,
    Json.parse host.format text = .ok j → HasNumbers j numbers →
    NumbersKept host unassigned calls text numbers := by
  intro hkept
  have hkept70000 := hkept plainHost ⟨0, 0, 0, 0⟩ .success (portText 70000) (portFile 70000)
    (portNumbers 70000) (parse_portText (by decide)) (hasNumbers_portFile 70000)
  have hwritten := hkept70000.written _ (load_portText (by decide))
  exact absurd hwritten.port (by decide)

end Kawin.Kasvc
