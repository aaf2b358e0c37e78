import RemoteAttach.Shell.Script

/-! The options of the shells: their names, in the order in which they are listed, and their
letters. -/

namespace RemoteAttach.Shell.Switch

/-- The names of the options of a shell, in the order in which it lists them. -/
def names : Dialect → List String
  | .dash =>
    ["errexit", "noglob", "ignoreeof", "interactive", "monitor", "noexec", "stdin", "xtrace",
      "verbose", "vi", "emacs", "noclobber", "allexport", "notify", "nounset", "privileged",
      "nolog", "debug"]
  | .bash =>
    ["allexport", "braceexpand", "emacs", "errexit", "errtrace", "functrace", "hashall",
      "histexpand", "history", "ignoreeof", "interactive-comments", "keyword", "monitor",
      "noclobber", "noexec", "noglob", "nolog", "notify", "nounset", "onecmd", "physical",
      "pipefail", "posix", "privileged", "verbose", "vi", "xtrace"]

/-- The further options of the larger shell, and those of them that are on at the start. -/
def further : List (String × Bool) :=
  [("autocd", false), ("assoc_expand_once", false), ("cdable_vars", false), ("cdspell", false),
    ("checkhash", false), ("checkjobs", false), ("checkwinsize", true), ("cmdhist", true),
    ("compat31", false), ("compat32", false), ("compat40", false), ("compat41", false),
    ("compat42", false), ("compat43", false), ("compat44", false),
    ("complete_fullquote", true), ("direxpand", false), ("dirspell", false), ("dotglob", false),
    ("execfail", false), ("expand_aliases", false), ("extdebug", false), ("extglob", false),
    ("extquote", true), ("failglob", false), ("force_fignore", true), ("globasciiranges", true),
    ("globskipdots", true), ("globstar", false), ("gnu_errfmt", false), ("histappend", false),
    ("histreedit", false), ("histverify", false), ("hostcomplete", true),
    ("huponexit", false), ("inherit_errexit", false), ("interactive_comments", true),
    ("lastpipe", false), ("lithist", false), ("localvar_inherit", false),
    ("localvar_unset", false), ("login_shell", false), ("mailwarn", false),
    ("no_empty_cmd_completion", false), ("nocaseglob", false), ("nocasematch", false),
    ("noexpand_translation", false), ("nullglob", false), ("patsub_replacement", true),
    ("progcomp", true), ("progcomp_alias", false), ("promptvars", true),
    ("restricted_shell", false), ("shift_verbose", false), ("sourcepath", true),
    ("varredir_close", false), ("xpg_echo", false)]

/-- The options of the shell in the form of letters. -/
def plainLetters : List (Char × String) :=
  [('a', "allexport"), ('b', "notify"), ('C', "noclobber"), ('e', "errexit"), ('f', "noglob"),
    ('I', "ignoreeof"), ('i', "interactive"), ('m', "monitor"), ('n', "noexec"),
    ('s', "stdin"), ('u', "nounset"), ('v', "verbose"), ('V', "vi"), ('E', "emacs"),
    ('x', "xtrace")]

/-- The options of the larger shell in the form of letters. -/
def richLetters : List (Char × String) :=
  [('a', "allexport"), ('b', "notify"), ('e', "errexit"), ('f', "noglob"), ('h', "hashall"),
    ('k', "keyword"), ('m', "monitor"), ('n', "noexec"), ('p', "privileged"), ('t', "onecmd"),
    ('u', "nounset"), ('v', "verbose"), ('x', "xtrace"), ('B', "braceexpand"),
    ('C', "noclobber"), ('E', "errtrace"), ('H', "histexpand"), ('P', "physical"),
    ('T', "functrace"), ('c', "command"), ('s', "stdin")]

/-- The letters of the options of a shell. -/
def letters : Dialect → List (Char × String)
  | .dash => plainLetters
  | .bash => richLetters

end RemoteAttach.Shell.Switch
