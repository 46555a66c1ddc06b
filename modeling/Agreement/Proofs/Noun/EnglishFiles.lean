import Agreement.Noun.English
import Agreement.Proofs.Noun.ReadingModes

/-!
# The files of the English lexicon

The rules and the prepositions that the English lexicon is packaged with, as two files. The lines of
the file of rules are read without a fault into exactly the rules of `English.rules`, in their order
(`English.read_ruleLines`), and the other file gives `English.prepositions`. So a lexicon of both
files is the English one, in a strict and in a lenient reading: `Lexicon.ofFiles_english`.
-/

namespace Agreement

namespace English

/-- The lines of the file of rules. -/
def ruleLines : List String :=
  ["# Noun inflection rules.", "#", "#   singular => modern|classical", "#",
   "#   word      irregular noun, exact forms",
   "#   -suffix   affix that needs a stem (\"-ch\" does not match \"ch\")",
   "#   *suffix   affix that may be a whole word (\"*man\" matches \"man\")",
   "#   (SING)    head noun of a compound; (PL) is its plural, (PREP) a",
   "#             preposition and * a word copied through unchanged", "#",
   "# Rules are tried top to bottom; irregulars are always tried before affixes.", "",
   "# --- Irregulars -----------------------------------------------------------", "",
   "person      => people|persons", "ox          => oxen", "die         => dice",
   "penny       => pennies|pence", "formula     => formulas|formulae", "human       => humans",
   "German      => Germans", "talisman    => talismans", "shaman      => shamans",
   "caiman      => caimans", "omen        => omens", "specimen    => specimens",
   "abdomen     => abdomens", "stamen      => stamens|stamina", "bus         => buses",
   "gas         => gases", "quiz        => quizzes", "status      => statuses",
   "virus       => viruses", "census      => censuses", "bonus       => bonuses",
   "campus      => campuses", "chorus      => choruses", "apparatus   => apparatuses",
   "hiatus      => hiatuses", "cactus      => cactuses|cacti", "fungus      => funguses|fungi",
   "focus       => focuses|foci", "radius      => radiuses|radii",
   "nucleus     => nucleuses|nuclei", "syllabus    => syllabuses|syllabi", "stimulus    => stimuli",
   "octopus     => octopuses|octopodes", "genus       => genera", "corpus      => corpuses|corpora",
   "opus        => opuses|opera", "axis        => axes", "analysis    => analyses",
   "base        => bases", "basis       => bases", "crisis      => crises", "thesis      => theses",
   "hypothesis  => hypotheses", "parenthesis => parentheses", "diagnosis   => diagnoses",
   "ellipsis    => ellipses", "oasis       => oases", "synopsis    => synopses",
   "index       => indexes|indices", "appendix    => appendixes|appendices",
   "matrix      => matrices", "vertex      => vertices", "vortex      => vortexes|vortices",
   "criterion   => criteria", "phenomenon  => phenomena", "automaton   => automatons|automata",
   "datum       => data", "medium      => mediums|media", "memorandum  => memorandums|memoranda",
   "curriculum  => curriculums|curricula", "bacterium   => bacteria",
   "stadium     => stadiums|stadia", "millennium  => millenniums|millennia",
   "addendum    => addenda", "antenna     => antennas|antennae", "alga        => algae",
   "larva       => larvae", "nebula      => nebulas|nebulae", "vertebra    => vertebrae",
   "schema      => schemas|schemata", "stigma      => stigmas|stigmata",
   "dogma       => dogmas|dogmata", "lemma       => lemmas|lemmata",
   "cherub      => cherubs|cherubim", "seraph      => seraphs|seraphim", "hero        => heroes",
   "potato      => potatoes", "tomato      => tomatoes", "echo        => echoes",
   "veto        => vetoes", "stomach     => stomachs", "monarch     => monarchs",
   "epoch       => epochs", "patriarch   => patriarchs", "loch        => lochs",
   "olive       => olives", "blouse      => blouses", "mongoose    => mongooses",
   "house       => houses", "horse       => horses", "course      => courses",
   "case        => cases", "nurse       => nurses", "purse       => purses",
   "verse       => verses", "universe    => universes", "rose        => roses",
   "nose        => noses", "hose        => hoses", "pose        => poses", "phrase      => phrases",
   "phase       => phases", "vase        => vases", "release     => releases",
   "license     => licenses", "response    => responses", "promise     => promises",
   "premise     => premises", "expense     => expenses", "sense       => senses",
   "purpose     => purposes", "clause      => clauses", "cause       => causes",
   "pause       => pauses", "excuse      => excuses", "use         => uses",
   "abuse       => abuses", "fuse        => fuses", "noise       => noises",
   "cheese      => cheeses", "disease     => diseases", "increase    => increases",
   "database    => databases", "exercise    => exercises", "surprise    => surprises",
   "enterprise  => enterprises", "series      => series", "species     => species",
   "moose       => moose", "swine       => swine", "aircraft    => aircraft",
   "salmon      => salmon", "trout       => trout", "offspring   => offspring", "",
   "# --- Whole-word affixes ---------------------------------------------------", "",
   "*man    => *men", "*mouse  => *mice", "*louse  => *lice", "*goose  => *geese",
   "*tooth  => *teeth", "*foot   => *feet", "*child  => *children", "*fish   => *fish",
   "*sheep  => *sheep", "*deer   => *deer", "*knife  => *knives", "*wife   => *wives",
   "*life   => *lives", "*leaf   => *leaves", "*loaf   => *loaves", "*thief  => *thieves",
   "*wolf   => *wolves", "*half   => *halves", "*calf   => *calves", "*elf    => *elves", "",
   "# --- Suffix families ------------------------------------------------------", "",
   "-eau => -eaus|-eaux", "-ieu => -ieus|-ieux", "-ch  => -ches", "-sh  => -shes", "-ss  => -sses",
   "-x   => -xes", "-zz  => -zzes", "-ay  => -ays", "-ey  => -eys", "-oy  => -oys", "-uy  => -uys",
   "-y   => -ies", "",
   "# --- Compounds ------------------------------------------------------------", "",
   "(SING)-(PREP)-* => (PL)-(PREP)-*", "(SING) general  => (PL) general"]

/-- The lines of the file of prepositions. -/
def prepositionLines : List String :=
  ["# English prepositions recognised inside compound nouns",
   "# (\"mother-in-law\", \"man of war\"). One per line.", "about", "above", "across", "after",
   "against", "along", "amid", "among", "around", "as", "at", "before", "behind", "below",
   "beneath", "beside", "besides", "between", "beyond", "but", "by", "concerning", "despite",
   "down", "during", "except", "for", "from", "in", "inside", "into", "like", "near", "of", "off",
   "on", "onto", "out", "outside", "over", "past", "per", "since", "through", "throughout", "till",
   "to", "toward", "towards", "under", "underneath", "unlike", "until", "up", "upon", "via", "with",
   "within", "without"]

/-- The file of rules. -/
def ruleFile : Text :=
  Text.ofLines (ruleLines.map String.toList)

/-- The file of prepositions. -/
def prepositionFile : Text :=
  Text.ofLines (prepositionLines.map String.toList)

/-- What holds of the characters of some lines holds of the lines. It saves decoding the lines when
a statement about them is evaluated. -/
theorem of_characters {P : List Text → Prop} {lines : List String} {characters : List Text}
    (h : lines.map String.toList = characters) (hp : P characters) : P (lines.map String.toList) :=
  h ▸ hp

/-- A line in front of others adds its characters. -/
theorem characters_cons {line : Text} {lines : List String} {characters : List Text}
    (h : lines.map String.toList = characters) :
    (String.ofList line :: lines).map String.toList = line :: characters := by
  rw [List.map_cons, String.toList_ofList, h]

/-- The lines of rules hold no line breaks, and are read into the English rules. -/
theorem read_ruleLines :
    (∀ line ∈ ruleLines.map String.toList, line.any isLineBreak = false) ∧
      RuleText.read true (ruleLines.map String.toList) = ⟨rules, none⟩ := by
  apply @of_characters fun lines => (∀ line ∈ lines, line.any isLineBreak = false) ∧
    RuleText.read true lines = ⟨rules, none⟩
  · repeat apply characters_cons
    rfl
  · decide +kernel

/-- The lines of prepositions hold no line breaks, and are the English prepositions and comments. -/
theorem ofList_prepositionLines :
    (∀ line ∈ prepositionLines.map String.toList, line.any isLineBreak = false) ∧
      Prepositions.ofList ((prepositionLines.map String.toList).map fun line =>
        (Text.cutAt '#' line).1.trim) = prepositions := by
  apply @of_characters fun lines => (∀ line ∈ lines, line.any isLineBreak = false) ∧
    Prepositions.ofList (lines.map fun line => (Text.cutAt '#' line).1.trim) = prepositions
  · repeat apply characters_cons
    rfl
  · decide +kernel

end English

namespace Lexicon

/-- The file of rules gives the English rules, whatever the prepositions are. -/
theorem ofFile_ruleFile (prepositions : Prepositions) (strict : Bool) :
    ofFile prepositions strict English.ruleFile = .ok (english prepositions) := by
  obtain ⟨hbreak, hread⟩ := English.read_ruleLines
  have hlenient : RuleText.read strict (English.ruleLines.map String.toList) =
      ⟨English.rules, none⟩ := by
    rw [← hread]
    exact RuleText.readFrom_eq_of_fault_eq_none strict (congrArg RuleText.Reading.fault hread)
  rw [ofFile, English.ruleFile, Text.lines_unifyLineEnds_ofLines hbreak, populate, hlenient,
    english]

/-- A lexicon of the packaged files is the English lexicon. -/
theorem ofFiles_english (strict : Bool) :
    ofFiles (some English.ruleFile) (some English.prepositionFile) strict =
      ofFiles none none strict := by
  obtain ⟨hbreak, hprepositions⟩ := English.ofList_prepositionLines
  have hfile : Prepositions.ofFile English.prepositionFile = English.prepositions := by
    rw [Prepositions.ofFile, English.prepositionFile, Text.lines_unifyLineEnds_ofLines hbreak,
      hprepositions]
  rw [ofFiles, ofFiles, Option.map_some, Option.getD_some, hfile]
  exact ofFile_ruleFile English.prepositions strict

end Lexicon

end Agreement
