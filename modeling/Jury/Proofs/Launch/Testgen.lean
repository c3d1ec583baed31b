import Jury.Proofs.Launch.Variables

/-!
# The session of a test generator

A test generator is given a session just if its variables hold a test, an output and a seed, and the
session then consists of these; otherwise the first of the three that is lacking, in this order, is
the fault. Whether the output is opened or only named is no matter for either.
-/

namespace Jury.Launch

variable {env : Environment} {name : String} {width : SeedWidth}

/-! ### Outputs -/

/-- The output on a descriptor, opened or only named. -/
def TestOutput.on (openOutput : Bool) (n : Int) : TestOutput :=
  if openOutput then .file n else .number n

@[simp]
lemma TestOutput.descriptor_on (openOutput : Bool) (n : Int) :
    (on openOutput n).descriptor = n := by
  cases openOutput <;> rfl

/-- An output is a descriptor that is open for writing, whichever way it is handed over. -/
lemma TestOutput.resolve_eq_map (env : Environment) (openOutput : Bool) :
    resolve env openOutput = (env.descriptor "JJS_TEST" .write).map (on openOutput) := by
  cases openOutput with
  | false => rfl
  | true =>
    rw [resolve, if_pos rfl, Environment.stream_eq_descriptor]
    rfl

lemma TestOutput.resolve_ends (env : Environment) (openOutput : Bool) :
    Ends (resolve env openOutput)
      (fun output => env.Names "JJS_TEST" .write output.descriptor ∧
        output = on openOutput output.descriptor)
      (env.LacksDescriptor "JJS_TEST" .write) := by
  rw [resolve_eq_map]
  exact (env.descriptor_ends "JJS_TEST" .write).map (descriptor_on openOutput)

/-! ### Seeds -/

lemma Seed.ofBytes_ends (width : SeedWidth) (bytes : List UInt8) :
    Ends (Seed.ofBytes width bytes) (fun seed => seed.width = width ∧ seed.bytes = bytes)
      fun fault => bytes.length ≠ width.length ∧
        fault = .seedLength bytes.length width.length := by
  apply Ends.of_cases
  · rintro seed ⟨rfl, rfl⟩
    rw [Seed.ofBytes, dif_pos seed.length_bytes]
  · rintro fault ⟨hlength, rfl⟩
    rw [Seed.ofBytes, dif_neg hlength]
  · by_cases hlength : bytes.length = width.length
    · exact .inl ⟨⟨width, bytes, hlength⟩, rfl, rfl⟩
    · exact .inr ⟨_, hlength, rfl⟩

/-- Why a variable holds no seed. -/
inductive Environment.LacksSeed (env : Environment) (name : String) (width : SeedWidth) :
    Fault → Prop
  | bytes {fault : Fault} (h : env.LacksBytes name fault) : LacksSeed env name width fault
  | length {bytes : List UInt8} (h : env.lookup name = some (Hex.encode bytes))
      (hlength : bytes.length ≠ width.length) :
      LacksSeed env name width (.seedLength bytes.length width.length)

lemma Environment.seed_ends (env : Environment) (name : String) (width : SeedWidth) :
    Ends (env.hexBytes name >>= Seed.ofBytes width)
      (fun seed => seed.width = width ∧ env.lookup name = some (Hex.encode seed.bytes))
      (env.LacksSeed name width) := by
  have h := (env.hexBytes_ends name).bind fun bytes _ => Seed.ofBytes_ends width bytes
  constructor
  · intro seed
    rw [h.ok_iff]
    constructor
    · rintro ⟨_, hlookup, hwidth, rfl⟩
      exact ⟨hwidth, hlookup⟩
    · rintro ⟨hwidth, hlookup⟩
      exact ⟨_, hlookup, hwidth, rfl⟩
  · intro fault
    rw [h.error_iff]
    constructor
    · rintro (hbytes | ⟨bytes, hlookup, hlength, rfl⟩)
      · exact .bytes hbytes
      · exact .length hlookup hlength
    · rintro (hbytes | ⟨hlookup, hlength⟩)
      · exact .inl hbytes
      · exact .inr ⟨_, hlookup, hlength, rfl⟩

/-- The texts of seeds: twice as many digits as the width has bytes. -/
lemma exists_seed_iff {value : String} :
    (∃ seed : Seed, seed.width = width ∧ value = Hex.encode seed.bytes) ↔
      value.length = 2 * width.length ∧ ∀ c ∈ value.toList, Hex.IsDigit c := by
  constructor
  · rintro ⟨seed, rfl, rfl⟩
    exact ⟨by rw [Hex.length_encode, seed.length_bytes], fun c => Hex.isDigit_of_mem_encode⟩
  · rintro ⟨hlength, hdigits⟩
    obtain ⟨bytes, rfl⟩ := Hex.exists_eq_encode_iff.mpr ⟨hdigits, by omega⟩
    rw [Hex.length_encode] at hlength
    exact ⟨⟨width, bytes, by omega⟩, rfl, rfl⟩

/-! ### Sessions -/

namespace TestgenSession

/-- What makes a session the one that an environment gives. -/
structure Fits (env : Environment) (options : TestgenOptions) (s : TestgenSession) : Prop where
  test : env.HoldsInteger "JJS_TEST_ID" s.test.toNat
  output : env.Names "JJS_TEST" .write s.output.descriptor
  mode : s.output = .on options.openOutput s.output.descriptor
  width : s.seed.width = options.width
  seed : env.lookup "JJS_RANDOM_SEED" = some (Hex.encode s.seed.bytes)

/-- Why an environment gives no session: the first of the test, the output and the seed that is
lacking. -/
inductive Lacks (env : Environment) (width : SeedWidth) : Fault → Prop
  | test {fault : Fault} (h : env.LacksWord "JJS_TEST_ID" fault) : Lacks env width fault
  | output {fault : Fault} (htest : ∃ w : UInt32, env.HoldsInteger "JJS_TEST_ID" w.toNat)
      (h : env.LacksDescriptor "JJS_TEST" .write fault) : Lacks env width fault
  | seed {fault : Fault} (htest : ∃ w : UInt32, env.HoldsInteger "JJS_TEST_ID" w.toNat)
      (houtput : ∃ n, env.Names "JJS_TEST" .write n)
      (h : env.LacksSeed "JJS_RANDOM_SEED" width fault) : Lacks env width fault

variable {options : TestgenOptions}

lemma resolve_eq_bind (env : Environment) (options : TestgenOptions) :
    resolve env options = env.word "JJS_TEST_ID" >>= fun test =>
      TestOutput.resolve env options.openOutput >>= fun output =>
        (env.hexBytes "JJS_RANDOM_SEED" >>= Seed.ofBytes options.width) >>= fun seed =>
          .ok { test, output, seed } := by
  rw [resolve]
  cases env.word "JJS_TEST_ID" with
  | error fault => rfl
  | ok test =>
    cases TestOutput.resolve env options.openOutput with
    | error fault => rfl
    | ok output => cases env.hexBytes "JJS_RANDOM_SEED" <;> rfl

lemma resolve_ends (env : Environment) (options : TestgenOptions) :
    Ends (resolve env options) (Fits env options) (Lacks env options.width) := by
  have hok (test : UInt32) (output : TestOutput) (seed : Seed) :
      Ends (.ok { test, output, seed } : Except Fault TestgenSession)
        (· = { test, output, seed }) fun _ => False :=
    .of_cases (fun _ h => h ▸ rfl) (fun _ => False.elim) (.inl ⟨_, rfl⟩)
  have h := (env.word_ends "JJS_TEST_ID").bind fun test _ =>
    (TestOutput.resolve_ends env options.openOutput).bind fun output _ =>
      (env.seed_ends "JJS_RANDOM_SEED" options.width).bind fun seed _ => hok test output seed
  rw [← resolve_eq_bind] at h
  constructor
  · intro s
    rw [h.ok_iff]
    constructor
    · rintro ⟨test, htest, output, ⟨houtput, hmode⟩, seed, ⟨hwidth, hseed⟩, rfl⟩
      exact ⟨htest, houtput, hmode, hwidth, hseed⟩
    · rintro ⟨htest, houtput, hmode, hwidth, hseed⟩
      exact ⟨_, htest, _, ⟨houtput, hmode⟩, _, ⟨hwidth, hseed⟩, rfl⟩
  · intro fault
    rw [h.error_iff]
    constructor
    · rintro (htest | ⟨test, htest, houtput | ⟨output, ⟨houtput, -⟩, hseed | ⟨_, _, hfalse⟩⟩⟩)
      · exact .test htest
      · exact .output ⟨test, htest⟩ houtput
      · exact .seed ⟨test, htest⟩ ⟨_, houtput⟩ hseed
      · exact hfalse.elim
    · rintro (htest | ⟨⟨test, htest⟩, houtput⟩ | ⟨⟨test, htest⟩, ⟨n, houtput⟩, hseed⟩)
      · exact .inl htest
      · exact .inr ⟨test, htest, .inl houtput⟩
      · refine .inr ⟨test, htest, .inr ⟨.on options.openOutput n, ⟨?_, ?_⟩, .inl hseed⟩⟩
        · rwa [TestOutput.descriptor_on]
        · rw [TestOutput.descriptor_on]

/-- What a session consists of, whichever way its output is handed over. -/
def given (s : TestgenSession) : UInt32 × Int × Seed :=
  (s.test, s.output.descriptor, s.seed)

/-- What is resolved is a matter of three variables, of the descriptors and of the width. -/
lemma map_given_resolve_congr {env' : Environment} {options' : TestgenOptions}
    (hlookup : ∀ name ∈ ["JJS_TEST_ID", "JJS_TEST", "JJS_RANDOM_SEED"],
      env'.lookup name = env.lookup name)
    (hdescriptors : env'.descriptors = env.descriptors) (hwidth : options'.width = options.width) :
    (resolve env' options').map given = (resolve env options).map given := by
  simp only [List.forall_mem_cons] at hlookup
  obtain ⟨htest, houtput, hseed, -⟩ := hlookup
  rw [resolve_eq_bind, resolve_eq_bind, TestOutput.resolve_eq_map, TestOutput.resolve_eq_map,
    Environment.word_congr htest, Environment.descriptor_congr houtput hdescriptors,
    Environment.hexBytes_congr hseed, hwidth]
  cases env.word "JJS_TEST_ID" with
  | error fault => rfl
  | ok test =>
    cases env.descriptor "JJS_TEST" .write with
    | error fault => rfl
    | ok n =>
      cases env.hexBytes "JJS_RANDOM_SEED" >>= Seed.ofBytes options.width with
      | error fault => rfl
      | ok seed =>
        show Except.ok (test, (TestOutput.on _ n).descriptor, seed) =
          Except.ok (test, (TestOutput.on _ n).descriptor, seed)
        rw [TestOutput.descriptor_on, TestOutput.descriptor_on]

lemma exists_fits_iff :
    (∃ s, Fits env options s) ↔
      (∃ n, env.HoldsInteger "JJS_TEST_ID" n ∧ 0 ≤ n ∧ n < 2 ^ 32) ∧
        (∃ n, env.Names "JJS_TEST" .write n) ∧
          ∃ value, env.lookup "JJS_RANDOM_SEED" = some value ∧
            value.length = 2 * options.width.length ∧ ∀ c ∈ value.toList, Hex.IsDigit c := by
  constructor
  · rintro ⟨s, htest, houtput, -, hwidth, hseed⟩
    refine ⟨⟨_, htest, by omega, ?_⟩, ⟨_, houtput⟩, _, hseed, exists_seed_iff.mp ⟨_, hwidth, rfl⟩⟩
    exact_mod_cast s.test.toNat_lt
  · rintro ⟨⟨n, htest, hnonneg, hlt⟩, ⟨m, houtput⟩, value, hvalue, hseed⟩
    obtain ⟨seed, hwidth, rfl⟩ := exists_seed_iff.mpr hseed
    lift n to Nat using hnonneg
    have hn : (UInt32.ofNat n).toNat = n := UInt32.toNat_ofNat_of_lt' (by exact_mod_cast hlt)
    exact ⟨⟨UInt32.ofNat n, .on options.openOutput m, seed⟩, by rwa [hn],
      by rwa [TestOutput.descriptor_on], by rw [TestOutput.descriptor_on], hwidth, hvalue⟩

/-- **Which environments give a session.** They are those that name a test below 2^32, a descriptor
that is open for writing, and a seed of as many digits as its width asks for. The session consists
of what they name, and otherwise the fault is the first one in this order. Neither depends on
whether the output is to be opened, nor on other variables, and different texts are different
seeds. -/
theorem resolve_exact (env : Environment) (options : TestgenOptions) :
    ((∃ s, resolve env options = .ok s) ↔
      (∃ n, env.HoldsInteger "JJS_TEST_ID" n ∧ 0 ≤ n ∧ n < 2 ^ 32) ∧
        (∃ n, env.Names "JJS_TEST" .write n) ∧
          ∃ value, env.lookup "JJS_RANDOM_SEED" = some value ∧
            value.length = 2 * options.width.length ∧ ∀ c ∈ value.toList, Hex.IsDigit c) ∧
    Ends (resolve env options) (Fits env options) (Lacks env options.width) ∧
    (∀ (env' : Environment) (openOutput : Bool),
      (∀ name ∈ ["JJS_TEST_ID", "JJS_TEST", "JJS_RANDOM_SEED"],
        env'.lookup name = env.lookup name) →
      env'.descriptors = env.descriptors →
      (resolve env' { options with openOutput }).map given = (resolve env options).map given) ∧
    ∀ (env' : Environment) (options' : TestgenOptions) (s s' : TestgenSession),
      resolve env options = .ok s → resolve env' options' = .ok s' →
      env.lookup "JJS_RANDOM_SEED" ≠ env'.lookup "JJS_RANDOM_SEED" → s.seed ≠ s'.seed := by
  refine ⟨?_, resolve_ends env options, fun env' openOutput hlookup hdescriptors =>
    map_given_resolve_congr hlookup hdescriptors rfl, ?_⟩
  · simp only [(resolve_ends env options).ok_iff]
    exact exists_fits_iff
  · intro env' options' s s' hs hs' hlookup hseed
    rw [(resolve_ends env options).ok_iff] at hs
    rw [(resolve_ends env' options').ok_iff] at hs'
    exact hlookup (by rw [hs.seed, hs'.seed, hseed])

/-- An environment that gives a session with a compact seed of these bytes. -/
def sample (seed : List UInt8) : Environment where
  lookup name :=
    [("JJS_TEST_ID", "7"), ("JJS_TEST", " +3\n"), ("JJS_RANDOM_SEED", Hex.encode seed)].lookup name
  descriptors := { entries := [(3, { access := .writeOnly })] }

/-- Two such environments whose seeds differ, the output of the one opened and of the other only
named. -/
theorem resolve_exact_sample :
    ∃ s s', resolve (sample [0, 1, 2, 3, 4, 5, 6, 7]) ⟨true, .compact⟩ = .ok s ∧
      resolve (sample [0, 1, 2, 3, 4, 5, 6, 0xff]) ⟨false, .compact⟩ = .ok s' ∧
      s.seed ≠ s'.seed := by
  have hgiven (seed : List UInt8) (hlength : seed.length = 8) (openOutput : Bool) :
      ∃ s, resolve (sample seed) ⟨openOutput, .compact⟩ = .ok s := by
    have htest : (sample seed).HoldsInteger "JJS_TEST_ID" 7 :=
      ⟨"7", rfl, .unsigned (by decide), by decide, by decide⟩
    have houtput : (sample seed).HoldsInteger "JJS_TEST" 3 :=
      ⟨" +3\n", rfl, @Text.SpellsInteger.plus ['3'] (by decide), by decide, by decide⟩
    have hnames : (sample seed).Names "JJS_TEST" .write 3 :=
      ⟨houtput, by decide, by decide, { access := .writeOnly }, rfl, rfl⟩
    exact (resolve_exact (sample seed) ⟨openOutput, .compact⟩).1.mpr
      ⟨⟨7, htest, by decide, by decide⟩, ⟨3, hnames⟩, _, rfl,
        exists_seed_iff.mp ⟨⟨.compact, seed, hlength⟩, rfl, rfl⟩⟩
  obtain ⟨s, hs⟩ := hgiven [0, 1, 2, 3, 4, 5, 6, 7] rfl true
  obtain ⟨s', hs'⟩ := hgiven [0, 1, 2, 3, 4, 5, 6, 0xff] rfl false
  exact ⟨s, s', hs, hs', (resolve_exact _ _).2.2.2 _ _ s s' hs hs' (by decide)⟩

end TestgenSession

end Jury.Launch
