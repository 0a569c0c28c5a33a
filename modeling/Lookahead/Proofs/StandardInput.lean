import Lookahead.Proofs.Analyses

/-!
# Files and standard input

Files and standard input are loaded alike (`Source.loads_alike`): bytes that fit make the same text
either way, and are analysed the same; bytes that do not fit are refused either way, for one reason.

* `Source.ofInput_eq`: standard input is cut off behind what shows that it is too large.
* `Source.ofBytes?_of_fits`, `Source.ofBytes?_alike`: what bytes come to, whatever they are called.
-/

namespace Lookahead

open Session

/-- Two loading errors that find one fault. -/
inductive SourceError.Alike : SourceError → SourceError → Prop
  | tooLarge (size size' limit : Nat) : Alike (.tooLarge size limit) (.tooLarge size' limit)
  | notText (path path' : String) : Alike (.notText path) (.notText path')
  | tooManyLines (lines limit : Nat) : Alike (.tooManyLines lines limit) (.tooManyLines lines limit)

namespace Source

/-- Bytes that can be loaded: not too many, and a text with not too many lines. -/
def Fits (bytes : ByteArray) : Prop :=
  bytes.size ≤ sizeLimit ∧
    ∃ text, String.fromUTF8? bytes = some text ∧ Text.lineCount text.toList ≤ lineLimit

/-- Bytes that fit are a source with their text. -/
theorem ofBytes?_of_fits {bytes : ByteArray} {text : String} (hsize : bytes.size ≤ sizeLimit)
    (htext : String.fromUTF8? bytes = some text) (hlines : Text.lineCount text.toList ≤ lineLimit)
    (info : FileInfo) (path : String) :
    ofBytes? info path bytes =
      .ok ⟨text, { info with lines := Text.lineCount text.toList }, 0⟩ :=
  (ofBytes?_eq_ok_iff info path bytes _).2 ⟨hsize, hlines, htext, rfl⟩

/-- **Bytes that do not fit** are refused under any name, for one reason. -/
theorem ofBytes?_alike {bytes : ByteArray} (h : ¬ Fits bytes) (info info' : FileInfo)
    (path path' : String) : ∃ d e, ofBytes? info path bytes = .error d ∧
      ofBytes? info' path' bytes = .error e ∧ d.Alike e := by
  by_cases hsize : sizeLimit < bytes.size
  · exact ⟨_, _, if_pos hsize, if_pos hsize, .tooLarge _ _ _⟩
  · rw [ofBytes?, ofBytes?, if_neg hsize, if_neg hsize]
    cases htext : String.fromUTF8? bytes with
    | none => exact ⟨_, _, rfl, rfl, .notText _ _⟩
    | some text =>
      have hlines : lineLimit < Text.lineCount text.toList :=
        Nat.lt_of_not_le fun hle => h ⟨Nat.le_of_not_lt hsize, text, htext, hle⟩
      exact ⟨_, _, if_pos hlines, if_pos hlines, .tooManyLines _ _⟩

/-- Of standard input that is not too large all is read. -/
theorem ofInput_eq {input : ByteArray} (h : input.size ≤ sizeLimit) :
    ofInput input = ofBytes? (.ofPath standardInput input.size) standardInput input := by
  have hall : input.extract 0 (sizeLimit + 1) = input := by
    apply ByteArray.ext
    rw [ByteArray.data_extract]
    exact Array.extract_eq_self_of_le (Nat.le_succ_of_le h)
  rw [ofInput_bytes, hall]

/-- Of standard input that is too large one byte too many is read. -/
theorem ofInput_of_large {input : ByteArray} (h : sizeLimit < input.size) :
    ofInput input = .error (.tooLarge (sizeLimit + 1) sizeLimit) := by
  have hsize : (input.extract 0 (sizeLimit + 1)).size = sizeLimit + 1 := by
    rw [ByteArray.size_extract]
    omega
  rw [ofInput_bytes, ofBytes?, hsize, if_pos (Nat.lt_succ_self _)]

theorem ofInput_alike {bytes : ByteArray} (h : ¬ Fits bytes) (info : FileInfo) (path : String) :
    ∃ d e, ofBytes? info path bytes = .error d ∧ ofInput bytes = .error e ∧ d.Alike e := by
  by_cases hsize : sizeLimit < bytes.size
  · exact ⟨_, _, if_pos hsize, ofInput_of_large hsize, .tooLarge _ _ _⟩
  · rw [ofInput_eq (Nat.le_of_not_lt hsize)]
    exact ofBytes?_alike h _ _ _ _

/-- **Files and standard input are loaded alike.**  Bytes that fit are loaded from either, with the
same text, size and lines, and with the same scan and run in any analysis; bytes that do not fit are
loaded from neither, for one reason. -/
theorem loads_alike {prefs : FilePreferences} (hprefs : prefs.requireExtension = false)
    (prefs' : FilePreferences) {path : Path} {bytes : ByteArray} {s : Session}
    (hfile : s.files.node path = .ok (.file bytes)) (hlog : s.Spares path) (t : Session) :
    (Fits bytes → ∃ a b, ((load prefs path).run s).1 = .ok a ∧
      ((readInput prefs' bytes).run t).1 = .ok b ∧
      String.fromUTF8? bytes = some a.text ∧ a.info.size = bytes.size ∧
      a.info.lines = Text.lineCount a.text.toList ∧
      b.text = a.text ∧ b.info.size = a.info.size ∧ b.info.lines = a.info.lines ∧
      ∀ choices u v,
        (Analysis.ofSource choices b u).1.scan = (Analysis.ofSource choices a v).1.scan ∧
        (Analysis.ofSource choices b u).1.run = (Analysis.ofSource choices a v).1.run) ∧
    (¬ Fits bytes → ∃ d e, ((load prefs path).run s).1 = .error d ∧
      ((readInput prefs' bytes).run t).1 = .error e ∧ d.Alike e) := by
  obtain ⟨names, htarget⟩ := FileTree.target_of_node hfile
  have hload := (ensures_load (lasting_shows path _) prefs (fun _ h => h.target_eq) s
    ⟨htarget, hlog⟩).1
  rw [ofTarget_file hprefs] at hload
  have hinput := (ensures_readInput lasting_true prefs' bytes t trivial).1
  constructor
  · rintro ⟨hsize, text, htext, hlines⟩
    rw [ofBytes?_of_fits hsize htext hlines] at hload
    rw [ofInput_eq hsize, ofBytes?_of_fits hsize htext hlines] at hinput
    refine ⟨_, _, hload, hinput, htext, rfl, rfl, rfl, rfl, rfl, fun choices u v => ?_⟩
    have hsource : ∀ (source : Source) (w : Session),
        (Analysis.ofSource choices source w).1 = .ofScan choices source := fun source w =>
      (Analysis.ensures_ofSource lasting_true choices source w trivial).1
    rw [hsource, hsource]
    exact ⟨rfl, rfl⟩
  · intro h
    obtain ⟨d, e, hd, he, halike⟩ := ofInput_alike h
      (.ofPath (FileTree.absolute names) bytes.size) (FileTree.absolute names)
    exact ⟨d, e, hload.trans hd, hinput.trans he, halike⟩

/-- A text with a letter of two bytes, and with a last line that does not end. -/
theorem loads_alike_unended :
    let bytes := "a = é;\r\n\"x".toUTF8
    let s := Session.inMemory Preferences.standard.log ⟨.dir [("a.java", .file bytes)], []⟩
    s.files.node "a.java" = .ok (.file bytes) ∧ s.Spares "a.java" ∧ Fits bytes ∧
      ∃ a b, ((load Preferences.standard.files "a.java").run s).1 = .ok a ∧
        ((readInput Preferences.standard.files bytes).run s).1 = .ok b ∧
        a.text = "a = é;\r\n\"x" ∧ a.info.size = 11 ∧ a.info.lines = 2 ∧
        b.text = a.text ∧ b.info.size = a.info.size ∧ b.info.lines = a.info.lines := by
  intro bytes s
  have hfile : s.files.node "a.java" = .ok (.file bytes) := by rfl
  have hlog : s.Spares "a.java" := spares_inMemory _ _ _
  have hprefs : Preferences.standard.files.requireExtension = false := rfl
  have hsize : bytes.size = 11 := by decide +kernel
  have hlines : Text.lineCount "a = é;\r\n\"x".toList = 2 := by decide +kernel
  have hfits : Fits bytes := ⟨by rw [hsize]; decide, _, fromUTF8?_toUTF8 _, by rw [hlines]; decide⟩
  obtain ⟨a, b, ha, hb, htext, hasize, halines, hbtext, hbsize, hblines, -⟩ :=
    (loads_alike hprefs Preferences.standard.files hfile hlog s).1 hfits
  have hatext := Option.some.inj (htext.symm.trans (fromUTF8?_toUTF8 _))
  exact ⟨hfile, hlog, hfits, a, b, ha, hb, hatext, hasize.trans hsize,
    halines.trans (hatext ▸ hlines), hbtext, hbsize, hblines⟩

end Source

end Lookahead
