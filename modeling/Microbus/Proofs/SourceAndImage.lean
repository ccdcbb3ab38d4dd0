import Microbus.CommandLine
import Microbus.Proofs.Calls
import Microbus.Proofs.Emulator.Trajectory
import Microbus.Proofs.Files
import Microbus.Proofs.Memory.ImageText

/-! # A source text and its image

There are two ways from a source text into a machine: to run it, and to assemble it into an image
file that is run afterwards. Both fail on the same texts and otherwise put the same bytes into the
same cells, so that nothing a run shows can tell them apart.
-/

namespace Microbus
set_option autoImplicit false

theorem Emulator.agrees_ofMachine {δ : Type} [OutputDevice δ] (m : Machine δ) (limit : Nat)
    (journal : Journal) :
    (ofMachine m (some limit) journal).run.Agrees limit (m.runUntilHalt limit) :=
  (runs_runWithin limit limit _).agrees [] rfl rfl (Nat.zero_add limit)

/-! ## From a source text to memory cells -/

namespace CommandLine

section

variable {source : String} {image : Memory} {failure : Failure}

theorem imageOf_cases (source : String) :
    (∃ e failure, (Assembly.assemble source).result = .error e ∧
      (imageOf source).2 = .error failure) ∨
    (∃ bytes failure, (Assembly.assemble source).result = .ok bytes ∧ 256 < bytes.length ∧
      (imageOf source).2 = .error failure) ∨
    ∃ bytes, (Assembly.assemble source).result = .ok bytes ∧ bytes.length ≤ 256 ∧
      (imageOf source).2 = .ok (Memory.zero.writeAll 0 bytes) := by
  cases hResult : (Assembly.assemble source).result with
  | error e =>
      have hImage : (imageOf source).2 = .error ⟨e.message, none⟩ := by simp only [imageOf, hResult]
      exact .inl ⟨e, _, rfl, hImage⟩
  | ok bytes =>
      by_cases hFits : bytes.length ≤ Memory.size
      · exact .inr (.inr ⟨bytes, rfl, hFits, by simp only [imageOf, hResult, if_pos hFits]⟩)
      · have hImage : (imageOf source).2 = .error ⟨"program is " ++ toString bytes.length ++
            " bytes, memory holds " ++ toString Memory.size, none⟩ := by
          simp only [imageOf, hResult, if_neg hFits]
        exact .inr (.inl ⟨bytes, _, rfl, Nat.lt_of_not_le hFits, hImage⟩)

theorem imageOf_error_iff : (∃ failure, (imageOf source).2 = .error failure) ↔
    (∃ e, (Assembly.assemble source).result = .error e) ∨
      ∃ bytes, (Assembly.assemble source).result = .ok bytes ∧ 256 < bytes.length := by
  rcases imageOf_cases source with ⟨e, failure, hResult, hImage⟩ |
    ⟨bytes, failure, hResult, hLong, hImage⟩ | ⟨bytes, hResult, hFits, hImage⟩
  · exact iff_of_true ⟨failure, hImage⟩ (.inl ⟨e, hResult⟩)
  · exact iff_of_true ⟨failure, hImage⟩ (.inr ⟨bytes, hResult, hLong⟩)
  · refine iff_of_false ?_ ?_
    · rintro ⟨failure, hError⟩
      rw [hImage] at hError
      cases hError
    · rintro (⟨e, hError⟩ | ⟨others, hOk, hLong⟩)
      · rw [hResult] at hError
        cases hError
      · rw [hResult] at hOk
        cases hOk
        omega

/-- The three ways into a fresh machine: the image of a source text itself, the image read back from
its text, and the bytes loaded at the first cell. -/
structure Installs {δ : Type} [OutputDevice δ] (m : Machine δ) (source : String) (image : Memory) :
    Prop where
  bytes : ∃ bytes, (Assembly.assemble source).result = .ok bytes ∧ bytes.length ≤ 256 ∧
    (∀ a, image.read a = bytes[a.toNat]?.getD 0) ∧
    m.perform (.loadProgram bytes 0) = ⟨m.setMemory image, none, []⟩
  readBack : Memory.Image.parse (Memory.Image.format image.toList) = .ok image
  loaded : m.perform (.loadImage image.toList) = ⟨m.setMemory image, none, []⟩

theorem parse_toList (image : Memory) :
    Memory.Image.parse (Memory.Image.format image.toList) = .ok image := by
  have hRead := Memory.Image.parse_format image.toList
  rw [if_pos image.length_toList] at hRead
  cases hParse : Memory.Image.parse (Memory.Image.format image.toList) with
  | error e =>
      rw [hParse] at hRead
      cases hRead
  | ok found =>
      rw [hParse] at hRead
      exact congrArg Except.ok (Memory.toList_injective (Except.ok.inj hRead))

theorem installs_powerOn {δ : Type} [OutputDevice δ] (config : MachineConfig) (device : δ)
    (hImage : (imageOf source).2 = .ok image) :
    Installs (.powerOn config device) source image := by
  rcases imageOf_cases source with ⟨e, failure, -, hError⟩ | ⟨bytes, failure, -, -, hError⟩ |
    ⟨bytes, hResult, hFits, hOk⟩
  · cases hError.symm.trans hImage
  · cases hError.symm.trans hImage
  · obtain rfl : Memory.zero.writeAll 0 bytes = image := Except.ok.inj (hOk.symm.trans hImage)
    have hFits' : bytes.length ≤ 256 - (0 : UInt8).toNat := hFits
    refine ⟨⟨bytes, hResult, hFits, fun a => ?_, ?_⟩, parse_toList _, ?_⟩
    · have hZero : Memory.zero.read a = 0 := by simp [Memory.zero, Memory.read]
      rw [Memory.read_writeAll hFits', hZero, UInt8.toNat_zero, if_pos (Nat.zero_le _), Nat.sub_zero]
    · rw [Machine.perform_loadProgram, if_pos hFits']
      rfl
    · rw [Machine.perform, Machine.loadImage, Memory.loadImage_toList]
      rfl

end

/-! ## Commands -/

theorem Written.append_eq (a b : Written) : a ++ b = ⟨a.out ++ b.out, a.err ++ b.err⟩ := rfl

def command (f : Folder) (arguments : List String) : (Written × Session) × Folder :=
  ((start Folder.access arguments).run f).run

def readImage (isImage : Bool) (text : String) : Except Failure Memory :=
  if isImage then (Memory.Image.parse text).mapError fun e => ⟨e.message, none⟩
  else (imageOf text).2

variable {f : Folder} {arguments : List String} {path text : String} {threshold : Level}

theorem command_run {isImage : Bool} {rate : Option Float} {limit : Nat} {debug : Bool}
    (hRequest : requestOf arguments = .ok ⟨.run path isImage rate limit debug, threshold⟩)
    (hRead : f.read path = .ok text) :
    command f arguments =
      (match readImage isImage text with
        | .error failure => failed failure
        | .ok image => startRun image threshold rate limit debug, f) := by
  simp only [command, start, hRequest, withFile, Folder.access]
  rw [readImage]
  cases hImage : (if isImage then
      (Memory.Image.parse text).mapError fun e => (⟨e.message, none⟩ : Failure)
    else (imageOf text).2) <;> simp [hRead, hImage]

theorem command_assemble_of_error {destination : Option String} {listing : Bool} {failure : Failure}
    (hRequest : requestOf arguments = .ok ⟨.assemble path destination listing, threshold⟩)
    (hRead : f.read path = .ok text) (hImage : (imageOf text).2 = .error failure) :
    ∃ shown, command f arguments = ((⟨"", shown ++ failure.text⟩, .finished 1), f) := by
  refine ⟨if listing then (imageOf text).1 else "", ?_⟩
  simp only [command, start, hRequest, assembleFile, withFile, Folder.access]
  simp [hRead, hImage, Written.append_eq]

theorem command_assemble_of_ok {destination : Option String} {listing : Bool} {image : Memory}
    (hRequest : requestOf arguments = .ok ⟨.assemble path destination listing, threshold⟩)
    (hRead : f.read path = .ok text) (hImage : (imageOf text).2 = .ok image) :
    ∃ shown, command f arguments =
      match destination with
      | none => ((⟨Memory.Image.format image.toList, shown⟩, .finished 0), f)
      | some name =>
          match f.write name (Memory.Image.format image.toList) with
          | .ok g => ((⟨"", shown⟩, .finished 0), g)
          | .error e =>
              ((⟨"", shown ++ Failure.text ⟨"writing " ++ name, some e.message⟩⟩, .finished 1), f) := by
  refine ⟨if listing then (imageOf text).1 else "", ?_⟩
  simp only [command, start, hRequest, assembleFile, withFile, Folder.access]
  cases destination with
  | none => simp [hRead, hImage, Written.append_eq]
  | some name =>
      cases hWrite : f.write name (Memory.Image.format image.toList) <;>
        simp [hRead, hImage, hWrite, Written.append_eq]

/-! ## The end of a run -/

def lastLines (m : Machine Panel) : String :=
  String.join (RegName.all.map fun r =>
    r.name ++ "=" ++ Text.Hex.upperByte (m.register r) ++ "\n") ++ m.render

/-- What a command shows whose run ends as a machine does: the fault, the limit, or the last lines
behind what the journal told. -/
def Ends (limit : Nat) (p : Progress Panel) (shown : Written × Session) : Prop :=
  match p.result with
  | .error cause => shown.1.err = Failure.text ⟨cause.message, none⟩ ∧ shown.2 = .finished 1
  | .ok _ =>
      if p.machine.halted then
        (∃ told : List Journal,
          shown.1.out = String.join (told.map journalText) ++ lastLines p.machine) ∧
          shown.1.err = "" ∧ shown.2 = .finished 0
      else
        shown.1.err = Failure.text ⟨RunError.message (.cycleLimit limit), none⟩ ∧
          shown.2 = .finished 1

section

variable {e : Emulator Panel}

theorem proceed_of_error {err : RunError} (hState : e.state = .running)
    (hResult : e.run.result = .error err) :
    proceed e =
      (⟨journalText e.run.emulator.journal, Failure.text ⟨err.message, none⟩⟩, .finished 1) := by
  simp only [proceed, hState, hResult, showJournal, failed, Written.append_eq]
  simp

theorem proceed_of_halted (hState : e.state = .running) (hResult : e.run.result = .ok .halted) :
    ∃ told : List Journal, proceed e =
      (⟨String.join (told.map journalText) ++ lastLines e.run.emulator.machine, ""⟩, .finished 0) := by
  refine ⟨[e.run.emulator.journal, ({ e.run.emulator with
    journal := e.run.emulator.journal.cleared }.note (.finished e.run.emulator.cycles)).journal], ?_⟩
  simp only [proceed, hState, hResult, showJournal, report, Written.append_eq]
  simp [lastLines, Emulator.note, Console.registerText, String.append_assoc]

end

theorem ends_proceed {m : Machine Panel} (hRun : m.halted = false) (limit : Nat) (journal : Journal) :
    Ends limit (m.runUntilHalt limit) (proceed (.ofMachine m (some limit) journal)) := by
  have hState : (Emulator.ofMachine m (some limit) journal).state = .running := by
    simp [Emulator.ofMachine, hRun]
  obtain ⟨hMachine, hResult⟩ := Emulator.agrees_ofMachine m limit journal
  generalize Emulator.ofMachine m (some limit) journal = e at hState hMachine hResult ⊢
  generalize m.runUntilHalt limit = p at hMachine hResult ⊢
  obtain ⟨machine, result, events⟩ := p
  cases result with
  | error cause =>
      have hFault : e.run.result = .error (.fault cause) := hResult
      rw [proceed_of_error hState hFault]
      exact ⟨rfl, rfl⟩
  | ok cycles =>
      simp only at hResult
      obtain ⟨-, hResult⟩ := hResult
      cases hHalted : machine.halted with
      | false =>
          simp only [hHalted, Bool.false_eq_true, if_false] at hResult
          simp [Ends, hHalted, proceed_of_error hState hResult.2]
      | true =>
          simp only [hHalted, if_true] at hResult
          obtain ⟨told, hProceed⟩ := proceed_of_halted hState hResult
          rw [hMachine] at hProceed
          simp only [Ends, hHalted, if_true, hProceed, and_true]
          exact ⟨told, rfl⟩

def Paced (rate : Option Float) : Prop := ∀ r, rate = some r → checkClockRate r = .ok ()

def started (image : Memory) : Machine Panel := (Machine.powerOn {} Panel.blank).setMemory image

theorem ends_startRun {rate : Option Float} (hRate : Paced rate) (image : Memory) (threshold : Level)
    (limit : Nat) : Ends limit ((started image).runUntilHalt limit)
      (startRun image threshold rate limit false) := by
  have hStart : startRun image threshold rate limit false =
      proceed (.ofMachine (started image) (some limit) (.opened (some threshold))) := by
    cases rate with
    | none => rfl
    | some r => simp only [startRun, hRate r rfl, started, Bool.false_eq_true, if_false]
  rw [hStart]
  exact ends_proceed rfl limit _

/-! ## The two ways -/

structure FailsAlike (f : Folder) (path : String) (failure : Failure) : Prop where
  assembling : ∀ arguments destination listing threshold,
    requestOf arguments = .ok ⟨.assemble path destination listing, threshold⟩ →
    ∃ shown, command f arguments = ((⟨"", shown ++ failure.text⟩, .finished 1), f)
  running : ∀ arguments rate limit debug threshold,
    requestOf arguments = .ok ⟨.run path false rate limit debug, threshold⟩ →
    command f arguments = (failed failure, f)

/-- What the commands do with a source text that has an image. The image is printed or written; run
from any file that holds it, it ends as the source text does. -/
structure RunsAlike (f : Folder) (path : String) (image : Memory) : Prop where
  prints : ∀ arguments listing threshold,
    requestOf arguments = .ok ⟨.assemble path none listing, threshold⟩ →
    ∃ shown, command f arguments = ((⟨Memory.Image.format image.toList, shown⟩, .finished 0), f)
  writes : ∀ arguments name listing threshold g,
    requestOf arguments = .ok ⟨.assemble path (some name) listing, threshold⟩ →
    f.write name (Memory.Image.format image.toList) = .ok g →
    (∃ shown, command f arguments = ((⟨"", shown⟩, .finished 0), g)) ∧
      (Folder.Inside name → g.read name = .ok (Memory.Image.format image.toList))
  source : ∀ arguments rate limit threshold, Paced rate →
    requestOf arguments = .ok ⟨.run path false rate limit false, threshold⟩ →
    Ends limit ((started image).runUntilHalt limit) (command f arguments).1
  image : ∀ g name arguments rate limit threshold, Paced rate →
    g.read name = .ok (Memory.Image.format image.toList) →
    requestOf arguments = .ok ⟨.run name true rate limit false, threshold⟩ →
    Ends limit ((started image).runUntilHalt limit) (command g arguments).1

theorem failsAlike {failure : Failure} (hRead : f.read path = .ok text)
    (hImage : (imageOf text).2 = .error failure) : FailsAlike f path failure := by
  refine ⟨fun arguments destination listing threshold hRequest =>
    command_assemble_of_error hRequest hRead hImage, ?_⟩
  intro arguments rate limit debug threshold hRequest
  have hFound : readImage false text = .error failure := hImage
  rw [command_run hRequest hRead, hFound]

theorem runsAlike {image : Memory} (hRead : f.read path = .ok text)
    (hImage : (imageOf text).2 = .ok image) : RunsAlike f path image where
  prints arguments listing threshold hRequest := command_assemble_of_ok hRequest hRead hImage
  writes arguments name listing threshold g hRequest hWrite := by
    obtain ⟨shown, hCommand⟩ := command_assemble_of_ok hRequest hRead hImage
    simp only [hWrite] at hCommand
    exact ⟨⟨shown, hCommand⟩, fun hInside => Folder.read_of_write hInside hWrite⟩
  source arguments rate limit threshold hRate hRequest := by
    have hFound : readImage false text = .ok image := hImage
    rw [command_run hRequest hRead, hFound]
    exact ends_startRun hRate image threshold limit
  image g name arguments rate limit threshold hRate hWritten hRequest := by
    have hFound : readImage true (Memory.Image.format image.toList) = .ok image := by
      rw [readImage, if_pos rfl, parse_toList]
      rfl
    rw [command_run hRequest hWritten, hFound]
    exact ends_startRun hRate image threshold limit

def Replaces {δ : Type} [OutputDevice δ] (m : Machine δ) (bytes : List UInt8) (offset : UInt8) :
    Prop :=
  (bytes.length ≤ 256 - offset.toNat → ∃ cells,
    m.perform (.loadProgram bytes offset) = ⟨m.setMemory cells, none, []⟩ ∧
    ∀ a, cells.read a =
      if offset.toNat ≤ a.toNat then bytes[a.toNat - offset.toNat]?.getD (m.memory.read a)
      else m.memory.read a) ∧
  (256 - offset.toNat < bytes.length → m.perform (.loadProgram bytes offset) =
    ⟨m, some (.sizeMismatch (256 - offset.toNat) bytes.length), []⟩)

theorem replaces {δ : Type} [OutputDevice δ] (m : Machine δ) (bytes : List UInt8) (offset : UInt8) :
    Replaces m bytes offset := by
  rw [Replaces, Machine.perform_loadProgram]
  refine ⟨fun hFits => ⟨_, if_pos hFits, Memory.read_writeAll hFits⟩, fun hLong => ?_⟩
  exact if_neg (Nat.not_le_of_lt hLong)

/-- A source text has no image exactly if it has no bytes or too many, and then every command fails
on it in the same way. Otherwise its image, read back or not, and its bytes give a fresh machine the
same cells, and for every limit a run of the source text and a run of its image end alike. A load
replaces the cells that its bytes fill, or does nothing. -/
theorem source_and_image :
    (∀ source, (∃ failure, (imageOf source).2 = .error failure) ↔
      (∃ e, (Assembly.assemble source).result = .error e) ∨
        ∃ bytes, (Assembly.assemble source).result = .ok bytes ∧ 256 < bytes.length) ∧
    (∀ config (device : Panel) source image, (imageOf source).2 = .ok image →
      Installs (.powerOn config device) source image) ∧
    (∀ f path source, f.read path = .ok source →
      (∀ failure, (imageOf source).2 = .error failure → FailsAlike f path failure) ∧
      ∀ image, (imageOf source).2 = .ok image → RunsAlike f path image) ∧
    ∀ (m : Machine Panel) bytes offset, Replaces m bytes offset := by
  refine ⟨fun source => imageOf_error_iff, fun config device source image hImage =>
    installs_powerOn config device hImage, fun f path source hRead => ?_, replaces⟩
  exact ⟨fun failure hImage => failsAlike hRead hImage, fun image hImage => runsAlike hRead hImage⟩

theorem ofText_short : FilePath.ofText "p" = .ok ⟨false, ["p"], false⟩ ∧
    FilePath.ofText "i" = .ok ⟨false, ["i"], false⟩ := by
  have hNames : "p".splitOn "/" = ["p"] ∧ "i".splitOn "/" = ["i"] := by
    refine ⟨?_, ?_⟩ <;>
    · rw [String.splitOn, if_neg (by decide), String.splitOnAux, if_neg (by decide),
        if_neg (by decide), String.splitOnAux, if_pos (by decide)]
      decide +kernel
  have hRoot : "p".startsWith "/" = false ∧ "i".startsWith "/" = false := by decide +kernel
  have hFolder : "p".endsWith "/" = false ∧ "i".endsWith "/" = false := by decide +kernel
  have hSize : "p".utf8ByteSize = 1 ∧ "i".utf8ByteSize = 1 := by decide +kernel
  have hFull : "p".isEmpty = false ∧ "i".isEmpty = false := by decide +kernel
  simp [FilePath.ofText, FilePath.sizeBound, hNames, hRoot, hFolder, hSize, hFull]

theorem source_and_image_halt :
    let f : Folder := ⟨[("p", "halt")]⟩
    ∃ image g, (imageOf "halt").2 = .ok image ∧
      (∃ shown, command f ["asm", "p", "-o", "i"] = ((⟨"", shown⟩, .finished 0), g)) ∧
      Ends 20 ((started image).runUntilHalt 20)
        (command f ["run", "p", "--max-cycles", "20"]).1 ∧
      Ends 20 ((started image).runUntilHalt 20)
        (command g ["run", "i", "--image", "--max-cycles", "20"]).1 := by
  intro f
  obtain ⟨hSourcePath, hImagePath⟩ := ofText_short
  have hResult : (Assembly.assemble "halt").result = .ok [1, 0] := by decide +kernel
  have hImage : (imageOf "halt").2 = .ok (Memory.zero.writeAll 0 [1, 0]) := by
    simp only [imageOf, hResult]
    rfl
  have hRead : f.read "p" = .ok "halt" := by
    rw [Folder.read, hSourcePath]
    rfl
  generalize Memory.zero.writeAll 0 [1, 0] = image at hImage
  obtain ⟨-, -, hCommands, -⟩ := source_and_image
  have hAlike := (hCommands f "p" "halt" hRead).2 image hImage
  have hWrite : f.write "i" (Memory.Image.format image.toList) =
      .ok ⟨[("i", Memory.Image.format image.toList), ("p", "halt")]⟩ := by
    rw [Folder.write, hImagePath]
    rfl
  obtain ⟨hShown, hWritten⟩ :=
    hAlike.writes ["asm", "p", "-o", "i"] "i" false .info _ rfl hWrite
  have hImageRead := hWritten ⟨_, hImagePath, rfl, by decide⟩
  have hFree : Paced none := by
    intro r hRate
    cases hRate
  exact ⟨image, _, hImage, hShown, hAlike.source _ none 20 .info hFree rfl,
    hAlike.image _ "i" _ none 20 .info hFree hImageRead rfl⟩

end CommandLine

end Microbus
