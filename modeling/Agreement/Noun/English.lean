import Agreement.Noun.RuleText

/-!
# The English lexicon

The prepositions and rules that a lexicon starts with unless others are given: irregular nouns, the
families of affixes, and two kinds of compounds, titles with "general" and phrases with a
preposition such as "mother-in-law". Irregular rules come first, and families in the order in which
they are tried.
-/

namespace Agreement.English

/-- English prepositions. -/
def prepositionWords : List String :=
  ["about", "above", "across", "after", "against", "along", "amid", "among", "around", "as", "at",
   "before", "behind", "below", "beneath", "beside", "besides", "between", "beyond", "but", "by",
   "concerning", "despite", "down", "during", "except", "for", "from", "in", "inside", "into",
   "like", "near", "of", "off", "on", "onto", "out", "outside", "over", "past", "per", "since",
   "through", "throughout", "till", "to", "toward", "towards", "under", "underneath", "unlike",
   "until", "up", "upon", "via", "with", "within", "without"]

/-- English prepositions, as a set. -/
def prepositions : Prepositions :=
  Prepositions.ofList (prepositionWords.map String.toList)

/-- Irregular nouns: the singular, the modern plural, and the classical one if it differs. -/
def irregularNouns : List (String × String × Option String) :=
  [("person", "people", some "persons"), ("ox", "oxen", none), ("die", "dice", none),
   ("penny", "pennies", some "pence"), ("formula", "formulas", some "formulae"),
   ("human", "humans", none), ("German", "Germans", none), ("talisman", "talismans", none),
   ("shaman", "shamans", none), ("caiman", "caimans", none), ("omen", "omens", none),
   ("specimen", "specimens", none), ("abdomen", "abdomens", none),
   ("stamen", "stamens", some "stamina"), ("bus", "buses", none), ("gas", "gases", none),
   ("quiz", "quizzes", none), ("status", "statuses", none), ("virus", "viruses", none),
   ("census", "censuses", none), ("bonus", "bonuses", none), ("campus", "campuses", none),
   ("chorus", "choruses", none), ("apparatus", "apparatuses", none), ("hiatus", "hiatuses", none),
   ("cactus", "cactuses", some "cacti"), ("fungus", "funguses", some "fungi"),
   ("focus", "focuses", some "foci"), ("radius", "radiuses", some "radii"),
   ("nucleus", "nucleuses", some "nuclei"), ("syllabus", "syllabuses", some "syllabi"),
   ("stimulus", "stimuli", none), ("octopus", "octopuses", some "octopodes"),
   ("genus", "genera", none), ("corpus", "corpuses", some "corpora"),
   ("opus", "opuses", some "opera"), ("axis", "axes", none), ("analysis", "analyses", none),
   ("base", "bases", none), ("basis", "bases", none), ("crisis", "crises", none),
   ("thesis", "theses", none), ("hypothesis", "hypotheses", none),
   ("parenthesis", "parentheses", none), ("diagnosis", "diagnoses", none),
   ("ellipsis", "ellipses", none), ("oasis", "oases", none), ("synopsis", "synopses", none),
   ("index", "indexes", some "indices"), ("appendix", "appendixes", some "appendices"),
   ("matrix", "matrices", none), ("vertex", "vertices", none),
   ("vortex", "vortexes", some "vortices"), ("criterion", "criteria", none),
   ("phenomenon", "phenomena", none), ("automaton", "automatons", some "automata"),
   ("datum", "data", none), ("medium", "mediums", some "media"),
   ("memorandum", "memorandums", some "memoranda"),
   ("curriculum", "curriculums", some "curricula"), ("bacterium", "bacteria", none),
   ("stadium", "stadiums", some "stadia"), ("millennium", "millenniums", some "millennia"),
   ("addendum", "addenda", none), ("antenna", "antennas", some "antennae"),
   ("alga", "algae", none), ("larva", "larvae", none), ("nebula", "nebulas", some "nebulae"),
   ("vertebra", "vertebrae", none), ("schema", "schemas", some "schemata"),
   ("stigma", "stigmas", some "stigmata"), ("dogma", "dogmas", some "dogmata"),
   ("lemma", "lemmas", some "lemmata"), ("cherub", "cherubs", some "cherubim"),
   ("seraph", "seraphs", some "seraphim"), ("hero", "heroes", none), ("potato", "potatoes", none),
   ("tomato", "tomatoes", none), ("echo", "echoes", none), ("veto", "vetoes", none),
   ("stomach", "stomachs", none), ("monarch", "monarchs", none), ("epoch", "epochs", none),
   ("patriarch", "patriarchs", none), ("loch", "lochs", none), ("olive", "olives", none),
   ("blouse", "blouses", none), ("mongoose", "mongooses", none), ("house", "houses", none),
   ("horse", "horses", none), ("course", "courses", none), ("case", "cases", none),
   ("nurse", "nurses", none), ("purse", "purses", none), ("verse", "verses", none),
   ("universe", "universes", none), ("rose", "roses", none), ("nose", "noses", none),
   ("hose", "hoses", none), ("pose", "poses", none), ("phrase", "phrases", none),
   ("phase", "phases", none), ("vase", "vases", none), ("release", "releases", none),
   ("license", "licenses", none), ("response", "responses", none), ("promise", "promises", none),
   ("premise", "premises", none), ("expense", "expenses", none), ("sense", "senses", none),
   ("purpose", "purposes", none), ("clause", "clauses", none), ("cause", "causes", none),
   ("pause", "pauses", none), ("excuse", "excuses", none), ("use", "uses", none),
   ("abuse", "abuses", none), ("fuse", "fuses", none), ("noise", "noises", none),
   ("cheese", "cheeses", none), ("disease", "diseases", none), ("increase", "increases", none),
   ("database", "databases", none), ("exercise", "exercises", none),
   ("surprise", "surprises", none), ("enterprise", "enterprises", none),
   ("series", "series", none), ("species", "species", none), ("moose", "moose", none),
   ("swine", "swine", none), ("aircraft", "aircraft", none), ("salmon", "salmon", none),
   ("trout", "trout", none), ("offspring", "offspring", none)]

/-- Families of affixes: whether the affixes may be whole words, the singular affix, the modern
plural one, and the classical plural one if it differs. -/
def families : List (Bool × String × String × Option String) :=
  [(true, "man", "men", none), (true, "mouse", "mice", none), (true, "louse", "lice", none),
   (true, "goose", "geese", none), (true, "tooth", "teeth", none), (true, "foot", "feet", none),
   (true, "child", "children", none), (true, "fish", "fish", none), (true, "sheep", "sheep", none),
   (true, "deer", "deer", none), (true, "knife", "knives", none), (true, "wife", "wives", none),
   (true, "life", "lives", none), (true, "leaf", "leaves", none), (true, "loaf", "loaves", none),
   (true, "thief", "thieves", none), (true, "wolf", "wolves", none),
   (true, "half", "halves", none), (true, "calf", "calves", none), (true, "elf", "elves", none),
   (false, "eau", "eaus", some "eaux"), (false, "ieu", "ieus", some "ieux"),
   (false, "ch", "ches", none), (false, "sh", "shes", none), (false, "ss", "sses", none),
   (false, "x", "xes", none), (false, "zz", "zzes", none), (false, "ay", "ays", none),
   (false, "ey", "eys", none), (false, "oy", "oys", none), (false, "uy", "uys", none),
   (false, "y", "ies", none)]

/-- The plurals with a modern form and perhaps a classical one. -/
def pluralsOf {α : Type} (modern : α) : Option α → Plurals α
  | none => .modern modern
  | some classical => .both modern classical

/-- The rule of an irregular noun. -/
def irregular (entry : String × String × Option String) : Rule :=
  let (singular, modern, classical) := entry
  .simple (.irregular ⟨singular, (pluralsOf modern classical).map String.toList, false⟩)

/-- The affix with a suffix that stands for itself. -/
def literalAffix (complete : Bool) (suffix : String) : Affix :=
  ⟨suffix.toList, complete, .literal⟩

/-- The rule of a family of affixes. -/
def family (entry : Bool × String × String × Option String) : Rule :=
  let (complete, singular, modern, classical) := entry
  .simple (.categorical
    ⟨literalAffix complete singular, (pluralsOf modern classical).map (literalAffix complete)⟩)

/-- The rule of compounds whose singular and plural have one form. -/
def compound (form : Text) : Rule :=
  let phrase := Phrase.ofForm form
  .compound ⟨phrase.pattern, phrase, phrase, .modern phrase, {}⟩

/-- The rules of the English lexicon, in the order of registration. -/
def rules : List Rule :=
  irregularNouns.map irregular ++ families.map family ++
    [compound "(SING)-(PREP)-*", compound "(SING) (PREP) *", compound "(SING) general"]

end English

/-- The English rules with given prepositions. -/
def Lexicon.english (prepositions : Prepositions := English.prepositions) : Lexicon :=
  ({ prepositions } : Lexicon).addAllPredefined English.rules

/-- The lexicon of a file of rules and a file of prepositions; the English ones stand in for a file
that is missing. -/
def Lexicon.ofFiles (nouns prepositions : Option Text) (strict : Bool) :
    Except RuleTextError Lexicon :=
  let prepositions := (prepositions.map Prepositions.ofFile).getD English.prepositions
  match nouns with
  | none => .ok (Lexicon.english prepositions)
  | some file => Lexicon.ofFile prepositions strict file

end Agreement
