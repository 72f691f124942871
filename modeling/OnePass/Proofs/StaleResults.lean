import OnePass.Proofs.SourceRun

/-!
# Results after several sources

An assembler is given sources one after the other. A source that can be opened replaces the results
there were: it leaves its own if the run over it returns, and none if the run fails. A file that
cannot be opened changes nothing, so that results of an earlier source outlive the failure.
-/

namespace OnePass.Proofs

/-- A source that an assembler is given. -/
inductive Request where
  | ofLines (lines : List Text) (filename : Text)
  | ofText (text filename : Text)
  | ofFile (files : FileTree) (path : Text)

/-- What becomes of an assembler that is given a source. -/
def serve (a : Assembler) : Request → Assembly
  | .ofLines lines filename => a.assembleLines lines filename
  | .ofText text filename => a.assembleText text filename
  | .ofFile files path => a.assembleFile files path

/-- An assembler after it was given several sources, whatever became of each of them. -/
def serveAll (a : Assembler) (requests : List Request) : Assembler :=
  requests.foldl (fun a request => (serve a request).assembler) a

/-- The source that is asked for and its name, unless it is a file that cannot be opened. -/
def Request.source (encoding : Text) : Request → Except OpenError (Source × Text)
  | .ofLines lines filename => .ok (⟨lines, none⟩, filename)
  | .ofText text filename => .ok (Source.ofText text, filename)
  | .ofFile files path =>
    match files.readText (Path.ofText path).toText encoding with
    | .ok source => .ok (source, (Path.ofText path).toText)
    | .error e => .error e

/-- Whether the source that is asked for can be opened. -/
def Request.opens (encoding : Text) (request : Request) : Bool :=
  match request.source encoding with
  | .ok _ => true
  | .error _ => false

/-- An assembler without results: it refuses whatever is asked of it. -/
structure Unavailable (a : Assembler) : Prop where
  incomplete : a.complete = false
  symbols : a.symbols = .error .noCompletedRun
  address : a.address = .error .noCompletedRun
  report : a.symbolReport = .error .noCompletedRun
  file : ∀ files path, a.writeSymbols files path = (files, some (.noResult .noCompletedRun))

/-- An assembler whose results are those of a session. -/
structure Reports (a : Assembler) (s : Session) : Prop where
  complete : a.complete = true
  symbols : a.symbols = .ok s.symbols
  address : a.address = .ok s.address
  report : a.symbolReport = .ok (report s.symbols.symbols)
  file : ∀ files path, a.writeSymbols files path =
    ((files.writeText path a.config.encoding s.symbols.fileLines).1,
      (files.writeText path a.config.encoding s.symbols.fileLines).2.map .write)

/-- An assembler that has not been given a source yet. -/
def unused (a : Assembler) : Assembler := { config := a.config, mnemonics := a.mnemonics }

/-- After a request there are no results but its own: none if it fails, and if it returns those that
it leaves on an assembler not used before. -/
structure NoStaleResults (a : Assembler) (request : Request) : Prop where
  failed : (serve a request).failure ≠ none → Unavailable (serve a request).assembler
  returned : (serve a request).failure = none →
    ∃ s, (serve (unused a) request).assembler.session = some s ∧
      Reports (serve a request).assembler s

lemma unavailable_of_incomplete {a : Assembler} (h : a.complete = false) : Unavailable a := by
  have hr : a.result = .error .noCompletedRun := by
    unfold Assembler.result
    cases a.session with
    | none => rfl
    | some s => simp [h]
  have hs : a.symbols = .error .noCompletedRun := by
    rw [Assembler.symbols, hr]
    rfl
  refine ⟨h, hs, ?_, ?_, fun files path => ?_⟩
  · rw [Assembler.address, hr]
    rfl
  · rw [Assembler.symbolReport, hs]
    rfl
  · rw [Assembler.writeSymbols, hs]

lemma reports_of_complete {a : Assembler} {s : Session} (h : a.complete = true)
    (hs : a.session = some s) : Reports a s := by
  have hr : a.result = .ok s := by simp [Assembler.result, hs, h]
  have hsymbols : a.symbols = .ok s.symbols := by
    rw [Assembler.symbols, hr]
    rfl
  refine ⟨h, hsymbols, ?_, ?_, fun files path => ?_⟩
  · rw [Assembler.address, hr]
    rfl
  · rw [Assembler.symbolReport, hsymbols]
    rfl
  · rw [Assembler.writeSymbols, hsymbols]

/-- A run leaves the settings alone, and is complete just when it does not fail. -/
lemma assembleSource_leaves (a : Assembler) (source : Source) (filename : Text) :
    let r := a.assembleSource source filename
    r.assembler.config = a.config ∧ r.assembler.mnemonics = a.mnemonics ∧
      r.assembler.session = some (passOver a filename source.lines).session ∧
      (r.assembler.complete = true ↔ r.failure = none) := by
  dsimp only
  cases hp : (passOver a filename source.lines).failure with
  | some d =>
    rw [assembleSource_of_stopped source hp]
    simp
  | none =>
    cases hf : source.fault with
    | some fault =>
      rw [assembleSource_of_broken source hp hf]
      simp
    | none =>
      rw [assembleSource_of_completed source hp hf]
      simp

lemma assembleSource_failure_congr {a b : Assembler} (hc : a.config = b.config)
    (ht : a.mnemonics = b.mnemonics) (source : Source) (filename : Text) :
    (a.assembleSource source filename).failure = (b.assembleSource source filename).failure := by
  have he : passOver a filename source.lines = passOver b filename source.lines := by
    simp only [passOver, Assembler.newSession, hc, ht]
  cases hp : (passOver a filename source.lines).failure with
  | some d => rw [assembleSource_of_stopped source hp, assembleSource_of_stopped source (he ▸ hp)]
  | none =>
    cases hf : source.fault with
    | some fault =>
      rw [assembleSource_of_broken source hp hf, assembleSource_of_broken source (he ▸ hp) hf]
    | none =>
      rw [assembleSource_of_completed source hp hf,
        assembleSource_of_completed source (he ▸ hp) hf]

lemma serve_of_opened {a : Assembler} {request : Request} {source : Source} {filename : Text}
    (h : request.source a.config.encoding = .ok (source, filename)) :
    (serve a request).assembler = (a.assembleSource source filename).assembler ∧
      (serve a request).failure = (a.assembleSource source filename).failure := by
  cases request with
  | ofLines lines name =>
    cases h
    exact ⟨rfl, rfl⟩
  | ofText text name =>
    cases h
    exact ⟨rfl, rfl⟩
  | ofFile files path =>
    cases hf : files.readText (Path.ofText path).toText a.config.encoding with
    | error e => simp [Request.source, hf] at h
    | ok s =>
      simp only [Request.source, hf, Except.ok.injEq, Prod.mk.injEq] at h
      obtain ⟨rfl, rfl⟩ := h
      simp [serve, Assembler.assembleFile, hf]

lemma serve_of_unopened {a : Assembler} {request : Request} {e : OpenError}
    (h : request.source a.config.encoding = .error e) :
    (serve a request).assembler = a ∧ (serve a request).failure ≠ none := by
  cases request with
  | ofLines lines name => cases h
  | ofText text name => cases h
  | ofFile files path =>
    cases hf : files.readText (Path.ofText path).toText a.config.encoding with
    | ok s => simp [Request.source, hf] at h
    | error e => simp [serve, Assembler.assembleFile, hf]

lemma serve_config (a : Assembler) (request : Request) :
    (serve a request).assembler.config = a.config ∧
      (serve a request).assembler.mnemonics = a.mnemonics := by
  cases h : request.source a.config.encoding with
  | error e => simp [(serve_of_unopened h).1]
  | ok opened =>
    rw [(serve_of_opened h).1]
    exact ⟨(assembleSource_leaves a _ _).1, (assembleSource_leaves a _ _).2.1⟩

lemma serveAll_config (a : Assembler) (requests : List Request) :
    (serveAll a requests).config = a.config ∧ (serveAll a requests).mnemonics = a.mnemonics := by
  induction requests generalizing a with
  | nil => exact ⟨rfl, rfl⟩
  | cons request requests ih =>
    have hs := serve_config a request
    have hi := ih (serve a request).assembler
    exact ⟨hi.1.trans hs.1, hi.2.trans hs.2⟩

lemma source_of_opens {encoding : Text} {request : Request}
    (ho : request.opens encoding = true) :
    ∃ source filename, request.source encoding = .ok (source, filename) := by
  unfold Request.opens at ho
  cases h : request.source encoding with
  | error e => simp [h] at ho
  | ok opened => exact ⟨opened.1, opened.2, rfl⟩

lemma error_of_not_opens {encoding : Text} {request : Request}
    (ho : request.opens encoding = false) : ∃ e, request.source encoding = .error e := by
  unfold Request.opens at ho
  cases h : request.source encoding with
  | error e => exact ⟨e, rfl⟩
  | ok opened => simp [h] at ho

lemma serve_failure_congr {a b : Assembler} (hc : a.config = b.config)
    (ht : a.mnemonics = b.mnemonics) {request : Request}
    (ho : request.opens a.config.encoding = true) :
    (serve a request).failure = (serve b request).failure := by
  obtain ⟨source, filename, h⟩ := source_of_opens ho
  rw [(serve_of_opened h).2, (serve_of_opened (hc ▸ h)).2]
  exact assembleSource_failure_congr hc ht source filename

/-- A source that can be opened leaves no results but its own. -/
theorem noStaleResults_of_opens {a : Assembler} {request : Request}
    (ho : request.opens a.config.encoding = true) : NoStaleResults a request := by
  obtain ⟨source, filename, h⟩ := source_of_opens ho
  obtain ⟨ha, hf⟩ := serve_of_opened h
  have hu := (serve_of_opened (a := unused a) h).1
  obtain ⟨-, -, hs, hcomplete⟩ := assembleSource_leaves a source filename
  constructor
  · intro hfail
    rw [hf, ne_eq, ← hcomplete, Bool.not_eq_true] at hfail
    rw [ha]
    exact unavailable_of_incomplete hfail
  · intro hok
    rw [hf, ← hcomplete] at hok
    rw [ha, hu]
    exact ⟨_, (assembleSource_leaves (unused a) source filename).2.2.1, reports_of_complete hok hs⟩

/-- A file that cannot be opened leaves the results there were, so that there must be none. -/
theorem noStaleResults_iff_of_not_opens {a : Assembler} {request : Request}
    (ho : request.opens a.config.encoding = false) :
    NoStaleResults a request ↔ a.complete = false := by
  obtain ⟨e, h⟩ := error_of_not_opens ho
  obtain ⟨ha, hf⟩ := serve_of_unopened h
  constructor
  · intro hn
    have hu := (hn.failed hf).incomplete
    rwa [ha] at hu
  · intro hc
    refine ⟨fun _ => ?_, fun hok => absurd hok hf⟩
    rw [ha]
    exact unavailable_of_incomplete hc

/-- After several sources there are results just when the last of them that could be opened has
been assembled without failure. -/
theorem serveAll_complete_iff {a : Assembler} (ha : a.complete = false) (requests : List Request) :
    (serveAll a requests).complete = true ↔
      ∃ r, (requests.filter (Request.opens a.config.encoding)).getLast? = some r ∧
        (serve a r).failure = none := by
  induction requests using List.reverseRecOn with
  | nil => simp [serveAll, ha]
  | append_singleton requests request ih =>
    obtain ⟨hc, ht⟩ := serveAll_config a requests
    have hstep : serveAll a (requests ++ [request]) =
        (serve (serveAll a requests) request).assembler := by
      simp [serveAll]
    rw [hstep, List.filter_append]
    cases ho : request.opens a.config.encoding with
    | true =>
      have ho' : request.opens (serveAll a requests).config.encoding = true := by rwa [hc]
      obtain ⟨source, filename, h⟩ := source_of_opens ho'
      have hcomplete := (assembleSource_leaves (serveAll a requests) source filename).2.2.2
      rw [← (serve_of_opened h).1, ← (serve_of_opened h).2, serve_failure_congr hc ht ho'] at hcomplete
      simp [hcomplete, ho]
    | false =>
      obtain ⟨e, h⟩ := error_of_not_opens ho
      rw [← hc] at h
      rw [(serve_of_unopened h).1, ih]
      simp [ho]

/-- After any sources, the next one leaves no stale results just when it can be opened, or the last
one before it that could be opened has failed. -/
theorem no_stale_results_iff (config : Option Config) (mnemonics : Option MnemonicTable)
    (before : List Request) (last : Request) :
    let a := Assembler.make config mnemonics
    NoStaleResults (serveAll a before) last ↔
      last.opens a.config.encoding = true ∨
        ∀ r, (before.filter (Request.opens a.config.encoding)).getLast? = some r →
          (serve a r).failure ≠ none := by
  dsimp only
  have hc := (serveAll_config (Assembler.make config mnemonics) before).1
  have hcomplete := serveAll_complete_iff (a := Assembler.make config mnemonics) rfl before
  cases ho : last.opens (Assembler.make config mnemonics).config.encoding with
  | true =>
    rw [← hc] at ho
    exact iff_of_true (noStaleResults_of_opens ho) (Or.inl rfl)
  | false =>
    rw [← hc] at ho
    rw [noStaleResults_iff_of_not_opens ho, ← Bool.not_eq_true, hcomplete]
    simp

/-- The labels of a text are still reported after a file that does not exist. -/
theorem stale_results_after_missing_file :
    ¬∀ (config : Option Config) (mnemonics : Option MnemonicTable) (before : List Request)
      (last : Request),
      NoStaleResults (serveAll (Assembler.make config mnemonics) before) last := by
  intro h
  let a := serveAll (Assembler.make none none) [.ofText "a: db 1\n" "<input>"]
  have hfailed : (serve a (.ofFile {} "missing.asm")).failure ≠ none := by decide +kernel
  have hcomplete : (serve a (.ofFile {} "missing.asm")).assembler.complete = true := by
    decide +kernel
  have hnone := ((h none none [.ofText "a: db 1\n" "<input>"] (.ofFile {} "missing.asm")).failed
    hfailed).incomplete
  exact absurd (hcomplete.symm.trans hnone) (by decide)

end OnePass.Proofs
