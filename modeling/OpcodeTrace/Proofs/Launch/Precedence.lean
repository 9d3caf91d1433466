import OpcodeTrace.Launch.Run
import OpcodeTrace.Proofs.Arguments.Spelling

/-! The command line comes before the file that it names, and the file before the defaults. -/

namespace OpcodeTrace.Launch

open Arguments (Setting Spelled Words)

def FileSets (readFile : String → File.Contents) (file : Settings) : Option String → Prop
  | none => file = {}
  | some path => ∃ bytes document, readFile path = .ok bytes ∧
      String.fromUTF8? ⟨bytes⟩ = some document ∧ Settings.read document = .ok file

variable {readFile : String → File.Contents} {file : Settings} {settings : List Setting}
  {words : List String}

theorem start_words (given : Words settings words) (distinct : settings.Pairwise (·.key ≠ ·.key)) :
    start words = .ok (settings.foldl Arguments.set {}) := by
  rw [start, Arguments.parse_words given distinct]

theorem result_findConfig {arguments : Arguments}
    (sets : FileSets readFile file arguments.configPath) (terminal : Terminal) :
    (findConfig (m := Id) readFile arguments terminal).result =
      .ok ((Config.override {} file).override arguments.settings) := by
  cases named : arguments.configPath with
  | none =>
      rw [named] at sets
      cases sets
      rw [findConfig, named]
      rfl
  | some path =>
      rw [named] at sets
      obtain ⟨bytes, document, contents, text, reads⟩ := sets
      have loads : Config.ofFile path (readFile path) = .ok (Config.override {} file) := by
        rw [contents, Config.ofFile, text]
        dsimp only
        rw [reads]
      simp only [findConfig, named, bind, pure, loads]
      rfl

/-- The command line overrides the file that it names, and the file overrides the defaults, field by
field. Other words for the same settings in any order give the same arguments. -/
theorem config_precedence (distinct : settings.Pairwise (·.key ≠ ·.key))
    (given : Words settings words)
    (sets : FileSets readFile file (settings.findSome? (·.alone.configPath))) :
    ∃ arguments, start words = .ok arguments ∧
      (∀ terminal, (findConfig (m := Id) readFile arguments terminal).result = .ok {
        tracePath := ((settings.findSome? (·.alone.settings.tracePath)).or file.tracePath).getD
          "out_primary.log"
        prompt := ((settings.findSome? (·.alone.settings.prompt)).or file.prompt).getD "> "
        info := ((settings.findSome? (·.alone.settings.info)).or file.info).getD ""
        defaultCount :=
          ((settings.findSome? (·.alone.settings.defaultCount)).or file.defaultCount).getD 10 }) ∧
      ∀ (others : List Setting) (otherWords : List String), others.Perm settings →
        Words others otherWords → start otherWords = .ok arguments := by
  have parts := Arguments.foldl_set_eq distinct
  refine ⟨settings.foldl Arguments.set {}, start_words given distinct, fun terminal => ?_,
    fun others otherWords perm otherGiven => ?_⟩
  · rw [parts, result_findConfig sets]
    simp only [Config.override, Arguments.ofSettings, Option.getD_or]
  · have otherDistinct := perm.symm.pairwise distinct fun apart => apart.symm
    rw [start_words otherGiven otherDistinct, Arguments.foldl_set_perm perm distinct]

theorem config_precedence_of_two_orders :
    ∃ arguments, start ["-n=5", "trace.bin", "--prompt", "-", "-cc.json"] = .ok arguments ∧
      (∀ terminal, (findConfig (m := Id)
          (fun _ => .ok "\x7b\"prompt\":\"p\",\"info\":\"i\"\x7d".toUTF8.data)
          arguments terminal).result =
        .ok { tracePath := "trace.bin", prompt := "-", info := "i", defaultCount := 5 }) ∧
      start ["--config=c.json", "-p-", "trace.bin", "-n", "05"] = .ok arguments := by
  have five : Decimal.read? "5" = some 5 ∧ Decimal.read? "05" = some 5 := by decide
  have given : Words [.field (.defaultCount 5), .field (.tracePath "trace.bin"),
      .field (.prompt "-"), .file "c.json"] ["-n=5", "trace.bin", "--prompt", "-", "-cc.json"] :=
    @Words.cons _ _ "5" ["-n=5"] _ (by decide) five.1 (@Spelled.short .count _ 'n' rfl) <|
    @Words.cons _ _ _ ["trace.bin"] _ (by decide) rfl (.alone rfl (by decide)) <|
    @Words.cons _ _ _ ["--prompt", "-"] _ (by decide) rfl
      (@Spelled.longApart .prompt _ 'p' rfl (.inr rfl)) <|
    @Words.cons _ _ _ ["-cc.json"] _ (by decide) rfl
      (@Spelled.attached .config "c.json" 'c' rfl (by decide)) .nil
  have turned : Words [.file "c.json", .field (.prompt "-"), .field (.tracePath "trace.bin"),
      .field (.defaultCount 5)] ["--config=c.json", "-p-", "trace.bin", "-n", "05"] :=
    @Words.cons _ _ _ ["--config=c.json"] _ (by decide) rfl
      (@Spelled.long .config "c.json" 'c' rfl) <|
    @Words.cons _ _ _ ["-p-"] _ (by decide) rfl
      (@Spelled.attached .prompt "-" 'p' rfl (by decide)) <|
    @Words.cons _ _ _ ["trace.bin"] _ (by decide) rfl (.alone rfl (by decide)) <|
    @Words.cons _ _ "05" ["-n", "05"] _ (by decide) five.2
      (@Spelled.shortApart .count _ 'n' rfl (.inl (by decide))) .nil
  have distinct : List.Pairwise (fun one another : Setting => one.key ≠ another.key)
      [.field (.defaultCount 5), .field (.tracePath "trace.bin"), .field (.prompt "-"),
        .file "c.json"] := by
    simp [Setting.key, Arguments.Key.ofField, Config.Member.field]
  have reads : Settings.read (String.ofList (Config.objectText [.prompt "p", .info "i"])) =
      .ok { prompt := some "p", info := some "i" } :=
    Settings.read_objectText (by simp [Config.Member.field])
  have sets : FileSets (fun _ => .ok "\x7b\"prompt\":\"p\",\"info\":\"i\"\x7d".toUTF8.data)
      { prompt := some "p", info := some "i" } (some "c.json") :=
    ⟨_, _, rfl, Config.fromUTF8?_toUTF8 _, reads⟩
  obtain ⟨arguments, starts, configs, others⟩ := config_precedence distinct given sets
  exact ⟨arguments, starts, configs, others _ _ (List.reverse_perm _) turned⟩

end OpcodeTrace.Launch
