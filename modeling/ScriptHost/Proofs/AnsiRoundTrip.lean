import ScriptHost.Proofs.SavedScript

/-!
# A text in a script file

What is read from a script file after a text was saved to it: `AnsiFile.read_saved`. Two things
happen to the text on the way. Writing leaves out the characters that the file's code lacks, and
reading takes every carriage return for a line end, alone or together with the newline after it. The
second one is the replacement of pairs and then of what remains (`unifyLineEnds_eq_replaceAll`). The
characters left out are gone before the line ends are looked at, so a carriage return and a newline
that come together in this way are one line end.
-/

namespace ScriptHost

open ScriptHost.Text

/-- Unified line ends are what comes of replacing the carriage returns before newlines first and the
others after that. -/
theorem Text.unifyLineEnds_eq_replaceAll (cs : List Char) :
    unifyLineEnds cs = replaceAll ['\r'] ['\n'] (replaceAll ['\r', '\n'] ['\n'] cs) := by
  fun_induction unifyLineEnds cs with
  | case1 => rw [replaceAll_nil (by simp), replaceAll_nil (by simp)]
  | case2 cs ih =>
    rw [ih, replaceAll_cons (by simp)]
    simp [replaceAll_cons]
  | case3 c cs h ih =>
    -- A carriage return here is one without a newline after it.
    have hpair : ['\r', '\n'].isPrefixOf (c :: cs) = false := by
      rw [Bool.eq_false_iff, ne_eq, List.isPrefixOf_iff_prefix, List.cons_prefix_cons]
      rintro ⟨hc, rest, hrest⟩
      exact h rest hc.symm hrest.symm
    rw [ih, replaceAll_cons (by simp) _ c cs, hpair]
    simp only [Bool.false_eq_true, if_false]
    rw [replaceAll_cons (by simp)]
    by_cases hc : c = '\r'
    · simp [hc]
    · simp [hc, Ne.symm hc]

namespace AnsiFile

open ScriptHost.Script (inGbk)

/-- Reading a file gives its text and does not change the world. -/
lemma carryOut_read {path : String} {w : World} {text : List Char}
    (h : (readText (.text path)).carryOut w = (.ok text, w)) :
    (read (.text path)).carryOut w = (.ok (.text (String.ofList text)), w) := by
  unfold read
  rw [Act.carryOut_recover, Act.carryOut_bind, h]
  rfl

/-- A text that was saved is read back from the file, without the characters that cannot be written
in GBK, and with newlines in the place of the carriage returns that are then in it: first of those
with a newline after them, then of the others. A text of which all characters can be written and
none is a carriage return comes back as it was. -/
theorem read_saved (path content : String) (w after : World)
    (hsave : (save (.text path) (.text content)).carryOut w = (.ok (.bool true), after)) :
    (read (.text path)).carryOut after =
        (.ok (.text (String.ofList (replaceAll ['\r'] ['\n']
          (replaceAll ['\r', '\n'] ['\n'] (content.toList.filter inGbk))))), after) ∧
      ((∀ c ∈ content.toList, inGbk c = true ∧ c ≠ '\r') →
        (read (.text path)).carryOut after = (.ok (.text content), after)) := by
  obtain ⟨r, modified, hpath, hlocate⟩ := locate_of_write (write_of_save hsave)
  have hread := carryOut_read (carryOut_readText hpath hlocate)
  have hdecode : Charset.gbk.decodeLossy (Charset.gbk.encodeLossy content.toList) =
      content.toList.filter inGbk :=
    Charset.decodeLossy_encodeLossy content.toList
  rw [hdecode] at hread
  refine ⟨?_, fun hplain => ?_⟩
  · rw [hread, unifyLineEnds_eq_replaceAll]
  · have hkept : content.toList.filter inGbk = content.toList :=
      List.filter_eq_self.2 fun c hc => (hplain c hc).1
    rw [hread, hkept, unifyLineEnds_eq_self fun hc => (hplain _ hc).2 rfl, String.ofList_toList]

/-- The world after a text was saved in an empty folder. -/
def worldWith (content : String) : World :=
  ((save (.text "test.vbs") (.text content)).carryOut Script.firstScene.world).2

lemma carryOut_save_worldWith (content : String)
    (hyes : Script.isYes
      ((save (.text "test.vbs") (.text content)).carryOut Script.firstScene.world).1 = true) :
    (save (.text "test.vbs") (.text content)).carryOut Script.firstScene.world =
      (.ok (.bool true), worldWith content) := by
  rw [← Script.eq_of_isYes hyes]
  rfl

/-- Line ends of all kinds are read back as newlines, and a text without carriage returns as it
is. -/
theorem read_saved_lineEnds :
    (read (.text "test.vbs")).carryOut (worldWith "a\r\nb\rc\n\r") =
        (.ok (.text "a\nb\nc\n\n"), worldWith "a\r\nb\rc\n\r") ∧
      (read (.text "test.vbs")).carryOut (worldWith "a\nb") =
        (.ok (.text "a\nb"), worldWith "a\nb") := by
  have hsave := carryOut_save_worldWith "a\r\nb\rc\n\r" (by decide +kernel)
  have hread := (read_saved "test.vbs" _ _ _ hsave).1
  have hplain : ∀ c ∈ "a\r\nb\rc\n\r".toList, c.toNat < 0x80 := by simp
  have hkept : "a\r\nb\rc\n\r".toList.filter inGbk = "a\r\nb\rc\n\r".toList :=
    List.filter_eq_self.2 fun c hc => Script.inGbk_of_plain (hplain c hc)
  have hlines : String.ofList (replaceAll ['\r'] ['\n']
      (replaceAll ['\r', '\n'] ['\n'] "a\r\nb\rc\n\r".toList)) = "a\nb\nc\n\n" := by
    decide +kernel
  rw [hkept, hlines] at hread
  have hsave' := carryOut_save_worldWith "a\nb" (by decide +kernel)
  have hplain' : ∀ c ∈ "a\nb".toList, c.toNat < 0x80 ∧ c ≠ '\r' := by simp
  exact ⟨hread, (read_saved "test.vbs" _ _ _ hsave').2 fun c hc =>
    ⟨Script.inGbk_of_plain (hplain' c hc).1, (hplain' c hc).2⟩⟩

end AnsiFile

end ScriptHost
