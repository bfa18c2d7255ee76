import CivilTime.Zone.Gazetteer.Entry

/-!
# The American zones

* `Gazetteer.america`: name, regimes and changes of each zone, in the order of the names.
-/

namespace CivilTime.Gazetteer

/-- The American zones. -/
def america : List Entry :=
  [
    ⟨"America/Adak", [⟨733, false⟩, ⟨-660, false⟩, ⟨-600, true⟩, ⟨-600, false⟩, ⟨-540, true⟩],
      ["B0Ckyid3kC1tyug0B2e6s0Bb7yik0C12y080B9cyk0C9d440B9cyk0C9d440B9px80C9d440B9cyk0C9d440B9",
        "cyk0C3lpg0Bf4d80C64g40Bclmk0C9d440B9px80C905g0B9px80C9d440B9cyk0C9d440B9cyk0C9d440B9cy",
        "k0C9d440B9cyk0C9d440B9px80C905g0D9px80D1l940E7rs80D9cyk0E9d440D9cyk0E9d440D9cyk0E8a840",
        "Dafuk0E8a840Dast80E7x9g0Dast80E7x9g0Dast80E8a840Dafuk0E8a840Dafuk0E8a840Dast80E7x9g0Da",
        "st80E7x9g0Dast80E8a840Dafuk0E8a840Dafuk0E8a840Dafuk0E8a840Dast80E7x9g0Dast80E7x9g0Dast",
        "80E8a840Dafuk0E8a840Dafuk0E8a840Dast80E7x9g0Dast80E7x9g0Dast80E6udg0Dc8nw0E6hes0Dc8nw0",
        "E6hes0Dc8nw0E6udg0Dc8nw0E6hes0Dc8nw0E6hes0Dc8nw0E6hes0Dc8nw0E6hes0Dc8nw0E6hes0Dc8nw0E6",
        "udg0Dc8nw0E6hes0Dc8nw0E6hes0Dc8nw0E6hes0Dc8nw0E6hes0Dc8nw0E6udg0Dc8nw0E6hes0Dc8nw0E6he",
        "s0Dc8nw0E6hes0Dc8nw0E6hes0Dc8nw0E6hes0Dc8nw0E6udg0Dc8nw0E6hes0Dc8nw0E6hes0Dc8nw0E6hes0",
        "Dc8nw0E6hes0Dc8nw0E6udg0Dc8nw0E6hes0Dc8nw0E6hes0Dc8nw0E6hes0Dc8nw0E6hes0Dc8nw0E6hes0Dc",
        "8nw0"]⟩,
    ⟨"America/Anchorage",
      [⟨840, false⟩, ⟨-600, false⟩, ⟨-540, true⟩, ⟨-540, false⟩, ⟨-480, true⟩],
      ["B0CkyiabkC1tyx80B2e400Bb7yik0C12y080B9cyk0C9d440B9cyk0C9d440B9px80C9d440B9cyk0C9d440B9",
        "cyk0C3lpg0Bf4d80C64g40Bclmk0C9d440B9px80C905g0B9px80C9d440B9cyk0C9d440B9cyk0C9d440B9cy",
        "k0C9d440B9cyk0C9d440B9px80C905g0D9px80D1l940E7rs80D9cyk0E9d440D9cyk0E9d440D9cyk0E8a840",
        "Dafuk0E8a840Dast80E7x9g0Dast80E7x9g0Dast80E8a840Dafuk0E8a840Dafuk0E8a840Dast80E7x9g0Da",
        "st80E7x9g0Dast80E8a840Dafuk0E8a840Dafuk0E8a840Dafuk0E8a840Dast80E7x9g0Dast80E7x9g0Dast",
        "80E8a840Dafuk0E8a840Dafuk0E8a840Dast80E7x9g0Dast80E7x9g0Dast80E6udg0Dc8nw0E6hes0Dc8nw0",
        "E6hes0Dc8nw0E6udg0Dc8nw0E6hes0Dc8nw0E6hes0Dc8nw0E6hes0Dc8nw0E6hes0Dc8nw0E6hes0Dc8nw0E6",
        "udg0Dc8nw0E6hes0Dc8nw0E6hes0Dc8nw0E6hes0Dc8nw0E6hes0Dc8nw0E6udg0Dc8nw0E6hes0Dc8nw0E6he",
        "s0Dc8nw0E6hes0Dc8nw0E6hes0Dc8nw0E6hes0Dc8nw0E6udg0Dc8nw0E6hes0Dc8nw0E6hes0Dc8nw0E6hes0",
        "Dc8nw0E6hes0Dc8nw0E6udg0Dc8nw0E6hes0Dc8nw0E6hes0Dc8nw0E6hes0Dc8nw0E6hes0Dc8nw0E6hes0Dc",
        "8nw0"]⟩,
    ⟨"America/Anguilla", [⟨-252, false⟩, ⟨-240, false⟩],
      ["B5bxu00"]⟩,
    ⟨"America/Antigua", [⟨-247, false⟩, ⟨-300, false⟩, ⟨-240, false⟩],
      ["B5bxtrkCk9mqg0"]⟩,
    ⟨"America/Araguaina", [⟨-193, false⟩, ⟨-180, false⟩, ⟨-120, true⟩],
      ["B6aehwwC99k8moB9a9c0C9io40B99980C8p65g0B6zuo0Cbs2o0B67zw0Ccjxg0B69uk0Ccjxg0B4ml80C5mf4",
        "40B49mk0Chaas0B316k0Ccls40B4ml80Ccls40B66580Ccls40B67zw0C981s40B6u7w0Cbiw40B5rbw0Cd0lg",
        "0B5ed80Ccyqs0B5ed80Cdbpg0B64ak0C2yl440B64ak0Cc8tg0B6u7w0Cbxpg0B7iak0Cbiw40B6u7w0Cbiw40",
        "B7k580Cbiw40B6u7w0Cc8tg0B6h980Cdbpg0B5ed80C51udg0B64ak0Bd07nfj"]⟩,
    ⟨"America/Argentina/Buenos_Aires",
      [⟨-234, false⟩, ⟨-257, false⟩, ⟨-240, false⟩, ⟨-180, true⟩, ⟨-180, false⟩, ⟨-120, true⟩],
      ["B0C9lc27kD5iv8k0C67zw0Da4w40C73h80Dcls40C66580Dcls40C66580Dcls40C66580Dcls40C67zw0Dcls",
        "40C66580Dcls40C66580Dcls40C66580Dcls40C67zw0D6a040Chy7w0D6a040Cxovw0D3uys0C18nbw0Db0dg",
        "0C8ve2k0D3uys0C3yik0Dbqas0C71mk0Dbqas0C71mk0Dbqas0C8ovw0D9d440C9px80D9d440C9cyk0E9d440",
        "F28t6k0E51ek0F7m2qs0E4tzw0Fbiw40E776k0Fbvus0E6u7w0Fbvus0E6u7w0Fbvus0E776k0E3fidg0E7thc",
        "0F430lc0E3yik0Fb5xg0E7k580Ef2123j"]⟩,
    ⟨"America/Argentina/Catamarca",
      [⟨-263, false⟩, ⟨-257, false⟩, ⟨-240, false⟩, ⟨-180, true⟩, ⟨-180, false⟩, ⟨-120, true⟩],
      ["B0C9lc27kD5iv8k0C67zw0Da4w40C73h80Dcls40C66580Dcls40C66580Dcls40C66580Dcls40C67zw0Dcls",
        "40C66580Dcls40C66580Dcls40C66580Dcls40C67zw0D6a040Chy7w0D6a040Cxovw0D3uys0C18nbw0Db0dg",
        "0C8ve2k0D3uys0C3yik0Dbqas0C71mk0Dbqas0C71mk0Dbqas0C8ovw0D9d440C9px80D9d440C9cyk0E9d440",
        "F28t6k0E51ek0F7m2qs0E4tzw0Fbiw40E776k0Fbvus0C6u7w0Fbvxk0E6u540Fbvus0E776k0D3fidg0E7thc",
        "0C27s800Ez9g0F1u93w0E3yik0Efkr4rj"]⟩,
    ⟨"America/Argentina/Cordoba",
      [⟨-257, false⟩, ⟨-240, false⟩, ⟨-180, true⟩, ⟨-180, false⟩, ⟨-120, true⟩],
      ["A0B9lc27kC5iv8k0B67zw0Ca4w40B73h80Ccls40B66580Ccls40B66580Ccls40B66580Ccls40B67zw0Ccls",
        "40B66580Ccls40B66580Ccls40B66580Ccls40B67zw0C6a040Bhy7w0C6a040Bxovw0C3uys0B18nbw0Cb0dg",
        "0B8ve2k0C3uys0B3yik0Cbqas0B71mk0Cbqas0B71mk0Cbqas0B8ovw0C9d440B9px80C9d440B9cyk0D9d440",
        "E28t6k0D51ek0E7m2qs0D4tzw0Ebiw40D776k0Ebvus0B6u7w0Ebvxk0D6u540Ebvus0D776k0D3fidg0D7thc",
        "0E430lc0D3yik0Eb5xg0D7k580Df2123j"]⟩,
    ⟨"America/Argentina/Jujuy",
      [⟨-261, false⟩, ⟨-257, false⟩, ⟨-240, false⟩, ⟨-180, true⟩, ⟨-180, false⟩, ⟨-120, true⟩],
      ["B0C9lc27kD5iv8k0C67zw0Da4w40C73h80Dcls40C66580Dcls40C66580Dcls40C66580Dcls40C67zw0Dcls",
        "40C66580Dcls40C66580Dcls40C66580Dcls40C67zw0D6a040Chy7w0D6a040Cxovw0D3uys0C18nbw0Db0dg",
        "0C8ve2k0D3uys0C3yik0Dbqas0C71mk0Dbqas0C71mk0Dbqas0C8ovw0D9d440C9px80D9d440C9cyk0E9d440",
        "F28t6k0E51ek0F7m2qs0E4tzw0Fbiw40C776k0Dc8w80C776k0Fag040E7k2g0Fbvus0E776k0E3fidg0E7thc",
        "0F430lc0E3yik0Efkr4rj"]⟩,
    ⟨"America/Argentina/La_Rioja",
      [⟨-267, false⟩, ⟨-257, false⟩, ⟨-240, false⟩, ⟨-180, true⟩, ⟨-180, false⟩, ⟨-120, true⟩],
      ["B0C9lc27kD5iv8k0C67zw0Da4w40C73h80Dcls40C66580Dcls40C66580Dcls40C66580Dcls40C67zw0Dcls",
        "40C66580Dcls40C66580Dcls40C66580Dcls40C67zw0D6a040Chy7w0D6a040Cxovw0D3uys0C18nbw0Db0dg",
        "0C8ve2k0D3uys0C3yik0Dbqas0C71mk0Dbqas0C71mk0Dbqas0C8ovw0D9d440C9px80D9d440C9cyk0E9d440",
        "F28t6k0E51ek0F7m2qs0E4tzw0Fbiw40E776k0Fbvus0C6qik0E3g880F8jbw0E6u7w0Fbvus0E776k0D3fidg",
        "0E7thc0C27s800Ez9g0F1u93w0E3yik0Efkr4rj"]⟩,
    ⟨"America/Argentina/Mendoza",
      [⟨-275, false⟩, ⟨-257, false⟩, ⟨-240, false⟩, ⟨-180, true⟩, ⟨-180, false⟩, ⟨-120, true⟩],
      ["B0C9lc27kD5iv8k0C67zw0Da4w40C73h80Dcls40C66580Dcls40C66580Dcls40C66580Dcls40C67zw0Dcls",
        "40C66580Dcls40C66580Dcls40C66580Dcls40C67zw0D6a040Chy7w0D6a040Cxovw0D3uys0C18nbw0Db0dg",
        "0C8ve2k0D3uys0C3yik0Dbqas0C71mk0Dbqas0C71mk0Dbqas0C8ovw0D9d440C9px80D9d440C9cyk0E9d440",
        "F28t6k0E51ek0F7m2qs0E4tzw0Fbiw40C776k0Dbktk0C71mk0Dbqas0C73h80Fbvus0E773s0D3fidg0E7thc",
        "0C27bk00E6hes0F1p7mk0E3yik0Efkr4rj"]⟩,
    ⟨"America/Argentina/Rio_Gallegos",
      [⟨-277, false⟩, ⟨-257, false⟩, ⟨-240, false⟩, ⟨-180, true⟩, ⟨-180, false⟩, ⟨-120, true⟩],
      ["B0C9lc27kD5iv8k0C67zw0Da4w40C73h80Dcls40C66580Dcls40C66580Dcls40C66580Dcls40C67zw0Dcls",
        "40C66580Dcls40C66580Dcls40C66580Dcls40C67zw0D6a040Chy7w0D6a040Cxovw0D3uys0C18nbw0Db0dg",
        "0C8ve2k0D3uys0C3yik0Dbqas0C71mk0Dbqas0C71mk0Dbqas0C8ovw0D9d440C9px80D9d440C9cyk0E9d440",
        "F28t6k0E51ek0F7m2qs0E4tzw0Fbiw40E776k0Fbvus0E6u7w0Fbvus0E6u7w0Fbvus0E776k0D3fidg0E7thc",
        "0C27s800Ez9g0F1u93w0E3yik0Efkr4rj"]⟩,
    ⟨"America/Argentina/Salta",
      [⟨-262, false⟩, ⟨-257, false⟩, ⟨-240, false⟩, ⟨-180, true⟩, ⟨-180, false⟩, ⟨-120, true⟩],
      ["B0C9lc27kD5iv8k0C67zw0Da4w40C73h80Dcls40C66580Dcls40C66580Dcls40C66580Dcls40C67zw0Dcls",
        "40C66580Dcls40C66580Dcls40C66580Dcls40C67zw0D6a040Chy7w0D6a040Cxovw0D3uys0C18nbw0Db0dg",
        "0C8ve2k0D3uys0C3yik0Dbqas0C71mk0Dbqas0C71mk0Dbqas0C8ovw0D9d440C9px80D9d440C9cyk0E9d440",
        "F28t6k0E51ek0F7m2qs0E4tzw0Fbiw40E776k0Fbvus0C6u7w0Fbvxk0E6u540Fbvus0E776k0E3fidg0E7thc",
        "0F430lc0E3yik0Efkr4rj"]⟩,
    ⟨"America/Argentina/San_Juan",
      [⟨-274, false⟩, ⟨-257, false⟩, ⟨-240, false⟩, ⟨-180, true⟩, ⟨-180, false⟩, ⟨-120, true⟩],
      ["B0C9lc27kD5iv8k0C67zw0Da4w40C73h80Dcls40C66580Dcls40C66580Dcls40C66580Dcls40C67zw0Dcls",
        "40C66580Dcls40C66580Dcls40C66580Dcls40C67zw0D6a040Chy7w0D6a040Cxovw0D3uys0C18nbw0Db0dg",
        "0C8ve2k0D3uys0C3yik0Dbqas0C71mk0Dbqas0C71mk0Dbqas0C8ovw0D9d440C9px80D9d440C9cyk0E9d440",
        "F28t6k0E51ek0F7m2qs0E4tzw0Fbiw40E776k0Fbvus0C6qik0E3g880F8jbw0E6u7w0Fbvus0E776k0D3fidg",
        "0E7thc0C27qdc0E2txg0F1sgak0E3yik0Efkr4rj"]⟩,
    ⟨"America/Argentina/San_Luis",
      [⟨-265, false⟩, ⟨-257, false⟩, ⟨-240, false⟩, ⟨-180, true⟩, ⟨-180, false⟩, ⟨-120, true⟩],
      ["B0C9lc27kD5iv8k0C67zw0Da4w40C73h80Dcls40C66580Dcls40C66580Dcls40C66580Dcls40C67zw0Dcls",
        "40C66580Dcls40C66580Dcls40C66580Dcls40C67zw0D6a040Chy7w0D6a040Cxovw0D3uys0C18nbw0Db0dg",
        "0C8ve2k0D3uys0C3yik0Dbqas0C71mk0Dbqas0C71mk0Dbqas0C8ovw0D9d440C9px80D9d440C9cyk0E9d440",
        "F28t6k0E51ek0F7m2qs0E4tzw0Fbiw40C7pp80Db2aw0C71mk0E4qg40D4conw0E7thc0C27qdc0E2txg0F1sg",
        "ak0D14nw0C2gys0Db5xg0C7k580Eb5xg0Eer80jj"]⟩,
    ⟨"America/Argentina/Tucuman",
      [⟨-261, false⟩, ⟨-257, false⟩, ⟨-240, false⟩, ⟨-180, true⟩, ⟨-180, false⟩, ⟨-120, true⟩],
      ["B0C9lc27kD5iv8k0C67zw0Da4w40C73h80Dcls40C66580Dcls40C66580Dcls40C66580Dcls40C67zw0Dcls",
        "40C66580Dcls40C66580Dcls40C66580Dcls40C67zw0D6a040Chy7w0D6a040Cxovw0D3uys0C18nbw0Db0dg",
        "0C8ve2k0D3uys0C3yik0Dbqas0C71mk0Dbqas0C71mk0Dbqas0C8ovw0D9d440C9px80D9d440C9cyk0E9d440",
        "F28t6k0E51ek0F7m2qs0E4tzw0Fbiw40E776k0Fbvus0C6u7w0Fbvxk0E6u540Fbvus0E776k0D3fidg0E7thc",
        "0C27s800Emas0F1um2k0E3yik0Fb5xg0E7k580Ef2123j"]⟩,
    ⟨"America/Argentina/Ushuaia",
      [⟨-273, false⟩, ⟨-257, false⟩, ⟨-240, false⟩, ⟨-180, true⟩, ⟨-180, false⟩, ⟨-120, true⟩],
      ["B0C9lc27kD5iv8k0C67zw0Da4w40C73h80Dcls40C66580Dcls40C66580Dcls40C66580Dcls40C67zw0Dcls",
        "40C66580Dcls40C66580Dcls40C66580Dcls40C67zw0D6a040Chy7w0D6a040Cxovw0D3uys0C18nbw0Db0dg",
        "0C8ve2k0D3uys0C3yik0Dbqas0C71mk0Dbqas0C71mk0Dbqas0C8ovw0D9d440C9px80D9d440C9cyk0E9d440",
        "F28t6k0E51ek0F7m2qs0E4tzw0Fbiw40E776k0Fbvus0E6u7w0Fbvus0E6u7w0Fbvus0E776k0D3fidg0E7thc",
        "0C27oio0E12ys0F1u93w0E3yik0Efkr4rj"]⟩,
    ⟨"America/Aruba", [⟨-280, false⟩, ⟨-270, false⟩, ⟨-240, false⟩],
      ["B5ayomwCrlo7io"]⟩,
    ⟨"America/Asuncion", [⟨-231, false⟩, ⟨-240, false⟩, ⟨-180, false⟩, ⟨-180, true⟩],
      ["A0Bfkax00CldwofkBs4vw0Ds6w40B7tek0Db0dg0B7rjw0Db0dg0B7rjw0Db0dg0B9cyk0D9eys0B9et80D9ey",
        "s0B9cyk0D9eys0B9cyk0D9eys0B9cyk0D9eys0B9et80D9eys0B9cyk0D9eys0B9cyk0D9eys0B9cyk0D9eys0",
        "B9et80D9eys0B9cyk0Dahus0B8a2k0D9eys0B9cyk0D9o840B7k580Db7s40B93p80D9gtg0B7nuk0Db42s0B7",
        "lzw0Db5xg0B7tek0Db9ms0B776k0Dbiw40B7k580Db5xg0B7x3w0Dasys0B7x3w0Dasys0B7x3w0Db5xg0B9cy",
        "k0D7kas0Bb5rw0D7x9g0Bast80Da31g0B7k580Db5xg0B7k580Db5xg0B7k580Dbiw40B776k0Dbiw40B776k0",
        "Dbiw40B8zzw0D905g0B9px80D905g0B9px80D9d440B8n180Da31g0B8n180Da31g0B8n180Da31g0B8zzw0D9",
        "q2s0B8zzw0D9q2s0B8zzw0Da31g0B8n180Da31g0B8n180Da31g0B8zzw0D9q2s0B8zzw0D9q2s0B8zzw0D9q2",
        "s0B8zzw0Da31g0Cgl80C6x6dzj"]⟩,
    ⟨"America/Atikokan", [⟨-366, false⟩, ⟨-360, false⟩, ⟨-300, true⟩, ⟨-300, false⟩],
      ["B0C8iv5vkBa2vw0Cbfxjw0Cpmdk0C1tz8c0D2dsw0"]⟩,
    ⟨"America/Bahia", [⟨-154, false⟩, ⟨-180, false⟩, ⟨-120, true⟩],
      ["B6aeg4cC99kaf8B9a9c0C9io40B99980C8p65g0B6zuo0Cbs2o0B67zw0Ccjxg0B69uk0Ccjxg0B4ml80C5mf4",
        "40B49mk0Chaas0B316k0Ccls40B4ml80Ccls40B66580Ccls40B67zw0C981s40B6u7w0Cbiw40B5rbw0Cd0lg",
        "0B5ed80Ccyqs0B5ed80Cdbpg0B64ak0Ccyqs0B64ak0Ccls40B5rbw0Cdbpg0B51ek0Cdbpg0B6h980Cc8tg0B",
        "6h980Cc8tg0B64ak0Cc8tg0B6u7w0Cbxpg0B7iak0Cbiw40B6u7w0Cbiw40B7k580Cbiw40B6u7w0Cc8tg0B6h",
        "980Cdbpg0B5ed80C4irc40B6u7w0Bdikrfj"]⟩,
    ⟨"America/Bahia_Banderas",
      [⟨-421, false⟩, ⟨-420, false⟩, ⟨-360, false⟩, ⟨-360, true⟩, ⟨-300, true⟩],
      ["BagpwfkC2u5s00B1si580D8jhg0B7x3w0C9eys0B591h80Ds5qoc0Bafuk0D8a840Bafuk0D8a840Bafuk0D8a",
        "840Bast80D7x9g0Bast80D9q2s0B7k580D9q2s0Bafuk0D8a840Bafuk0D8a840Bast80D7x9g0Bast80D7x9g",
        "0Bast80D7x9g0Bast80D8a840Bafuk0D8a840Bafuk0E8a840Casqg0E7x9g0Cast80E7x9g0Cast80E8a840C",
        "afuk0E8a840Cafuk0E8a840Cafuk0E8a840Cast80E7x9g0Cast80E7x9g0Cast80E8a840Cafuk0E8a840Caf",
        "uk0E8a840Cast80E7x9g0Cast80"]⟩,
    ⟨"America/Barbados", [⟨-238, false⟩, ⟨-240, false⟩, ⟨-180, true⟩, ⟨-210, true⟩],
      ["B52bip1Cfzq06jB6w840Ccjrw0B6hes0Db7mk0B7ves0Ch3dpc0B5rbw0Ca31g0B8n180Ca31g0B8n180Cag04",
        "0B84ik0"]⟩,
    ⟨"America/Belem", [⟨-194, false⟩, ⟨-180, false⟩, ⟨-120, true⟩],
      ["B6aehysC99k8ksB9a9c0C9io40B99980C8p65g0B6zuo0Cbs2o0B67zw0Ccjxg0B69uk0Ccjxg0B4ml80C5mf4",
        "40B49mk0Chaas0B316k0Ccls40B4ml80Ccls40B66580Ccls40B67zw0C981s40B6u7w0Cbiw40B5rbw0Cd0lg",
        "0B5ed80Bq2ha3j"]⟩,
    ⟨"America/Belize", [⟨-353, false⟩, ⟨-360, false⟩, ⟨-330, true⟩, ⟨-300, true⟩],
      ["B5dhinkC3edkc0B6ham0Cc8s20B6u9a0Cbvte0B6u9a0Cbvte0B6u9a0Cc8s20B6ham0Cc8s20B6ham0Cc8s20",
        "B6u9a0Cbvte0B6u9a0Cbvte0B6u9a0Cbvte0B6u9a0Cc8s20B6ham0Cc8s20B6ham0Cc8s20B6u9a0Cbvte0B6",
        "u9a0Cbvte0B6u9a0Cc8s20B6ham0Cc8s20B6ham0Cc8s20B6ham0Cc8s20B6u9a0Cbvte0B6u9a0Cbvte0B6u9",
        "a0Cc8s20B6ham0Cc8s20B6ham0Cc8s20B6u9a0D6uc20D1mtz80B6c8o0Cxulg0B6u9a0Cbvte0B6u9a0Cbvte",
        "0B6u9a0Cc8s20B6ham0Cc8s20B6ham0Cc8s20B6u9a0Cbvte0B6u9a0Cbvte0B6u9a0Cbvte0B6u9a0Cc8s20B",
        "6ham0Cc8s20B6ham0Cc8s20B6u9a0Cbvte0B6u9a0Cbvte0B6u9a0Cc8s20B6ham0Cc8s20B6ham0Cc8s20B6h",
        "am0Cc8s20B6u9a0Cbvte0B6u9a0Cbvte0B6u9a0Cc8s20B6ham0D319de0B3e580D4mcys0B2vmk0"]⟩,
    ⟨"America/Blanc-Sablon", [⟨-228, false⟩, ⟨-240, false⟩, ⟨-180, true⟩],
      ["B0C8iv0bkBa2vw0Cc5jxg0C1tzdw0B2dnc0"]⟩,
    ⟨"America/Boa_Vista", [⟨-243, false⟩, ⟨-240, false⟩, ⟨-180, true⟩],
      ["B6aek80C99k93kB9a9c0C9io40B99980C8p65g0B6zuo0Cbs2o0B67zw0Ccjxg0B69uk0Ccjxg0B4ml80C5mf4",
        "40B49mk0Chaas0B316k0Ccls40B4ml80Ccls40B66580Ccls40B67zw0C981s40B6u7w0Cbiw40B5rbw0Cd0lg",
        "0B5ed80C62xk40B7k580Cbiw40Bcvw0Bjg3pzj"]⟩,
    ⟨"America/Bogota", [⟨-296, false⟩, ⟨-300, false⟩, ⟨-240, true⟩],
      ["A0B6r6c1cC14f1hi8Beefw0Bnghsjj"]⟩,
    ⟨"America/Boise", [⟨-465, false⟩, ⟨-480, false⟩, ⟨-420, true⟩, ⟨-420, false⟩, ⟨-360, true⟩],
      ["B0C8i5e3kBast80C7x9g0Bast80D1um840E9s7jw0E1tz5k0D2dvo0Eb9gdg0D9cyk0E9d440D9cyk0E9d440D",
        "9cyk0E9d440D9cyk0E9d440D9px80E9d440D9cyk0E9d440D9cyk0E51k40Ddoik0E64g40Dclmk0E9d440D9p",
        "x80E905g0D9px80E9d440D9cyk0E9d440D9cyk0E9d440D9cyk0E9d440D9cyk0E9d440D9px80E905g0D9px8",
        "0E9d440D9cyk0E9d440D9cyk0E9d440D9cyk0E8a840Dafuk0E8a840Dast80E7x9g0Dast80E7x9g0Dast80E",
        "8a840Dafuk0E8a840Dafuk0E8a840Dast80E7x9g0Dast80E7x9g0Dast80E8a840Dafuk0E8a840Dafuk0E8a",
        "840Dafuk0E8a840Dast80E7x9g0Dast80E7x9g0Dast80E8a840Dafuk0E8a840Dafuk0E8a840Dast80E7x9g",
        "0Dast80E7x9g0Dast80E6udg0Dc8nw0E6hes0Dc8nw0E6hes0Dc8nw0E6udg0Dc8nw0E6hes0Dc8nw0E6hes0D",
        "c8nw0E6hes0Dc8nw0E6hes0Dc8nw0E6hes0Dc8nw0E6udg0Dc8nw0E6hes0Dc8nw0E6hes0Dc8nw0E6hes0Dc8",
        "nw0E6hes0Dc8nw0E6udg0Dc8nw0E6hes0Dc8nw0E6hes0Dc8nw0E6hes0Dc8nw0E6hes0Dc8nw0E6hes0Dc8nw",
        "0E6udg0Dc8nw0E6hes0Dc8nw0E6hes0Dc8nw0E6hes0Dc8nw0E6hes0Dc8nw0E6udg0Dc8nw0E6hes0Dc8nw0E",
        "6hes0Dc8nw0E6hes0Dc8nw0E6hes0Dc8nw0E6hes0Dc8nw0"]⟩,
    ⟨"America/Cambridge_Bay",
      [⟨0, false⟩, ⟨-420, false⟩, ⟨-360, true⟩, ⟨-360, false⟩, ⟨-300, true⟩, ⟨-300, false⟩],
      ["B9f3nnkCbjeec0C1tz5k0B2dvo0Cdvfpg0B9cyk0C9d440B9cyk0C9d440B9cyk0C9d440B9cyk0C9d440B9px",
        "80C905g0B9px80C9d440B9cyk0C9d440B9cyk0C9d440B9cyk0C9d440B9cyk0C9d440B9px80C905g0B9px80",
        "C9d440B9cyk0C9d440B9cyk0C9d440B9cyk0C8a840Bafuk0C8a840Bast80C7x9g0Bast80C7x9g0Bast80C8",
        "a840Bafuk0C8a840Bafuk0C8a840Bast80C7x9g0Bast80C7x9g0Bast80C8a840Bafuk0C8a840Bafuk0C8a8",
        "40Bafuk0C8a840Dast80E7x6o0Fast80Dct40C7kj40Bast80C8a840Bafuk0C8a840Bafuk0C8a840Bast80C",
        "7x9g0Bast80C7x9g0Bast80C6udg0Bc8nw0C6hes0Bc8nw0C6hes0Bc8nw0C6udg0Bc8nw0C6hes0Bc8nw0C6h",
        "es0Bc8nw0C6hes0Bc8nw0C6hes0Bc8nw0C6hes0Bc8nw0C6udg0Bc8nw0C6hes0Bc8nw0C6hes0Bc8nw0C6hes",
        "0Bc8nw0C6hes0Bc8nw0C6udg0Bc8nw0C6hes0Bc8nw0C6hes0Bc8nw0C6hes0Bc8nw0C6hes0Bc8nw0C6hes0B",
        "c8nw0C6udg0Bc8nw0C6hes0Bc8nw0C6hes0Bc8nw0C6hes0Bc8nw0C6hes0Bc8nw0C6udg0Bc8nw0C6hes0Bc8",
        "nw0C6hes0Bc8nw0C6hes0Bc8nw0C6hes0Bc8nw0C6hes0Bc8nw0"]⟩,
    ⟨"America/Campo_Grande", [⟨-218, false⟩, ⟨-240, false⟩, ⟨-180, true⟩],
      ["B6aej3oC99ka7wB9a9c0C9io40B99980C8p65g0B6zuo0Cbs2o0B67zw0Ccjxg0B69uk0Ccjxg0B4ml80C5mf4",
        "40B49mk0Chaas0B316k0Ccls40B4ml80Ccls40B66580Ccls40B67zw0C981s40B6u7w0Cbiw40B5rbw0Cd0lg",
        "0B5ed80Ccyqs0B5ed80Cdbpg0B64ak0Ccyqs0B64ak0Ccls40B5rbw0Cdbpg0B51ek0Cdbpg0B6h980Cc8tg0B",
        "6h980Cc8tg0B64ak0Cc8tg0B6u7w0Cbxpg0B7iak0Cbiw40B6u7w0Cbiw40B7k580Cbiw40B6u7w0Cc8tg0B6h",
        "980Cdbpg0B5ed80Ccls40B64ak0Cdfes0B5nmk0Cc8tg0B6h980Cdbpg0B5rbw0Cbvus0B6h980Ccls40B64ak",
        "0Ccls40B6h980Cc8tg0B6h980Cc8tg0B6u7w0Cc8tg0B64ak0Ccls40B64ak0Ccls40B6h980Cc8tg0B6h980C",
        "c8tg0B6h980Cc8tg0B6h980Cdbpg0B5ed80B9vi5zj"]⟩,
    ⟨"America/Cancun", [⟨-347, false⟩, ⟨-360, false⟩, ⟨-300, false⟩, ⟨-300, true⟩, ⟨-240, true⟩],
      ["BagptnkCvb0dk0Bj8d00D6x2wc0Bafuk0D8a840Cafuk0E8a5c0D64ak0B4bms0D8a840Bast80D7x9g0Bast8",
        "0D9q2s0B7k580D9q2s0Bafuk0D8a840Bafuk0D8a840Bast80D7x9g0Bast80D7x9g0Bast80D7x9g0Bast80D",
        "8a840Bafuk0D8a840Bafuk0D8a840Bast80D7x9g0Bast80D7x9g0Bast80D8a840Bafuk0D8a840Bafuk0C51",
        "k40"]⟩,
    ⟨"America/Caracas", [⟨-268, false⟩, ⟨-270, false⟩, ⟨-240, false⟩],
      ["A0B5ayo1oCrlo83wBmeoxm0C4dps00Cbc2g7j"]⟩,
    ⟨"America/Cayenne", [⟨-209, false⟩, ⟨-240, false⟩, ⟨-180, false⟩],
      ["B4zc2ogCtcw6r4C10ovsjj"]⟩,
    ⟨"America/Cayman", [⟨-326, false⟩, ⟨-307, false⟩, ⟨-300, false⟩],
      ["B0C5aecji"]⟩,
    ⟨"America/Chicago", [⟨-351, false⟩, ⟨-360, false⟩, ⟨-300, true⟩, ⟨-300, false⟩],
      ["B0C8i58jkBast80C7x9g0Bast80Cbvus0B776k0C7kas0Bb5rw0C9d440B7k580Cb5xg0B7x3w0Casys0B7x3w",
        "0Casys0B7x3w0Casys0B7x3w0Casys0B7x3w0Cb5xg0B7x3w0Casys0B7x3w0Casys0B7x3w0Casys0B7x3w0C",
        "asys0B7x3w0Cb5xg0B7k580Cb5xg0B7x3w0Casys0B7x3w0D7x9g0Bdbjw0C8a840B7x3w0Casys0B7x3w0Cb5",
        "xg0B7k580Cb5xg0B7x3w0Casys0B7x3w0C6w840C1tz8c0B2dsw0Casys0B7x3w0Casys0B7x3w0Casys0B7x3",
        "w0Casys0B7x3w0Cb5xg0B7k580Cb5xg0B7x3w0Casys0B7x3w0Casys0B7x3w0Casys0B7x3w0Casys0B9px80",
        "C9d440B9cyk0C9d440B9cyk0C9d440B9cyk0C9d440B9cyk0C9d440B9px80C9d440B9cyk0C9d440B9cyk0C9",
        "d440B9cyk0C9d440B9cyk0C9d440B9px80C905g0B9px80C9d440B9cyk0C9d440B9cyk0C9d440B9cyk0C9d4",
        "40B9cyk0C9d440B9px80C9d440B9cyk0C9d440B9cyk0C3lpg0Bf4d80C64g40Bclmk0C9d440B9px80C905g0",
        "B9px80C9d440B9cyk0C9d440B9cyk0C9d440B9cyk0C9d440B9cyk0C9d440B9px80C905g0B9px80C9d440B9",
        "cyk0C9d440B9cyk0C9d440B9cyk0C8a840Bafuk0C8a840Bast80C7x9g0Bast80C7x9g0Bast80C8a840Bafu",
        "k0C8a840Bafuk0C8a840Bast80C7x9g0Bast80C7x9g0Bast80C8a840Bafuk0C8a840Bafuk0C8a840Bafuk0",
        "C8a840Bast80C7x9g0Bast80C7x9g0Bast80C8a840Bafuk0C8a840Bafuk0C8a840Bast80C7x9g0Bast80C7",
        "x9g0Bast80C6udg0Bc8nw0C6hes0Bc8nw0C6hes0Bc8nw0C6udg0Bc8nw0C6hes0Bc8nw0C6hes0Bc8nw0C6he",
        "s0Bc8nw0C6hes0Bc8nw0C6hes0Bc8nw0C6udg0Bc8nw0C6hes0Bc8nw0C6hes0Bc8nw0C6hes0Bc8nw0C6hes0",
        "Bc8nw0C6udg0Bc8nw0C6hes0Bc8nw0C6hes0Bc8nw0C6hes0Bc8nw0C6hes0Bc8nw0C6hes0Bc8nw0C6udg0Bc",
        "8nw0C6hes0Bc8nw0C6hes0Bc8nw0C6hes0Bc8nw0C6hes0Bc8nw0C6udg0Bc8nw0C6hes0Bc8nw0C6hes0Bc8n",
        "w0C6hes0Bc8nw0C6hes0Bc8nw0C6hes0Bc8nw0"]⟩,
    ⟨"America/Chihuahua",
      [⟨-424, false⟩, ⟨-420, false⟩, ⟨-360, false⟩, ⟨-360, true⟩, ⟨-300, true⟩],
      ["BagpwfkC2u5s00B1si580D8jhg0B7x3w0C9eys0Exes2s0Cafuk0E8a840Cafuk0D8aaw0Bafuk0D8a840Bast",
        "80D7x9g0Bast80D9q2s0B7k580D9q2s0Bafuk0D8a840Bafuk0D8a840Bast80D7x9g0Bast80D7x9g0Bast80",
        "D7x9g0Bast80D8a840Bafuk0D8a840Bafuk0D8a840Bast80D7x9g0Bast80D7x9g0Bast80D8a840Bafuk0D8",
        "a840Bafuk0D8a840Bafuk0D8a840Bast80D7x9g0Bast80D7x9g0Bast80D8a840Bafuk0D8a840Bafuk0D8a8",
        "40Bast80D7x9g0Cast80"]⟩,
    ⟨"America/Ciudad_Juarez",
      [⟨-426, false⟩, ⟨-420, false⟩, ⟨-360, false⟩, ⟨-360, true⟩, ⟨-300, true⟩],
      ["BagpwfkC2u5s00B1si580D8jhg0B7x3w0C9eys0Exes2s0Cafuk0E8a840Cafuk0D8aaw0Bafuk0D8a840Bast",
        "80D7x9g0Bast80D9q2s0B7k580D9q2s0Bafuk0D8a840Bafuk0D8a840Bast80D7x9g0Bast80D7x9g0Bast80",
        "D7x9g0Bast80D8a840Bafuk0D8a840Bafuk0D77c40Bc8nw0D6hes0Bc8nw0D6hes0Bc8nw0D6hes0Bc8nw0D6",
        "hes0Bc8nw0D6hes0Bc8nw0D6udg0Bc8nw0D6hes0Bc8nw0D6hes0Bc8nw0D6hes0Bc8nw0D6hes0Bc8nw0D6ud",
        "g0Bc8nw0D6hes0Cbvp80B1l940D594c0Bc8nw0D6hes0Bc8nw0D6hes0Bc8nw0D6hes0Bc8nw0D6udg0Bc8nw0",
        "D6hes0Bc8nw0D6hes0Bc8nw0D6hes0Bc8nw0D6hes0Bc8nw0D6udg0Bc8nw0D6hes0Bc8nw0D6hes0Bc8nw0D6",
        "hes0Bc8nw0D6hes0Bc8nw0D6hes0Bc8nw0"]⟩,
    ⟨"America/Costa_Rica", [⟨-336, false⟩, ⟨-360, false⟩, ⟨-300, true⟩],
      ["A0B9ynsjxCubtl3nB51ek0Cdoo40B51ek0C5jso40B8drw0Cacas0B2xh80"]⟩,
    ⟨"America/Coyhaique",
      [⟨-288, false⟩, ⟨-283, false⟩, ⟨-300, false⟩, ⟨-240, false⟩, ⟨-240, true⟩, ⟨-180, true⟩,
        ⟨-180, false⟩],
      ["B0C47pq2tB3dlssrD157b79Bf4e0rE49hzb9Caye0rE7ves0Cawik0E7ves0Cawik0E7ves0Cawik0E7ves0Ca",
        "yd80D7ves0C534ik0D351g0E24lbw0Cb25c0D2mg00Fb73400D7k580Fc8tg0D6h980Fa31g0D7x3w0Fasys0D",
        "7x3w0Fb5xg0D7k580Fag040D8a2k0Fb5xg0D7k580Fb5xg0D7x3w0Fasys0D7x3w0Fasys0D7x3w0Fb5xg0D7k",
        "580Fb5xg0D7k580Fb5xg0D7x3w0Fasys0D7x3w0Fasys0D7x3w0Fasys0D7x3w0Fb5xg0D7k580Fb5xg0D7k58",
        "0Fb5xg0D9cyk0F9d440D7x3w0Fasys0D7x3w0Fb5xg0D7k580F9q2s0D8zzw0Fb5xg0D7x3w0Fasys0D7x3w0F",
        "asys0D7x3w0Fasys0D7x3w0Fb5xg0D7k580Fb5xg0D8n180Fa31g0D7x3w0Fa31g0D9px80F9q2s0D7x3w0Fb5",
        "xg0D7k580Fb5xg0D7k580Fb5xg0D7k580Fb5xg0D7x3w0Fasys0D7x3w0Fasys0D7x3w0Fb5xg0D7k580Fb5xg",
        "0D8n180Fa31g0D7x3w0Fasys0D8zzw0F9q2s0Dast80F5eis0Dcyl80F6hes0Dc8nw0F6udg0Dbvp80F6udg0D",
        "vonw0F4olg0De1h80F4olg0De1h80F4olg0Dc8nw0F7x9g0Dast80F7x9g0Dast80F7x9g0Dast80F8a840Daf",
        "uk0F7x9g0Db5rw0F7x9g0G9xbw0G6p5hzj"]⟩,
    ⟨"America/Creston", [⟨-466, false⟩, ⟨-420, false⟩, ⟨-480, false⟩],
      ["B0C7q21rkBvbus0"]⟩,
    ⟨"America/Cuiaba", [⟨-224, false⟩, ⟨-240, false⟩, ⟨-180, true⟩],
      ["B6aejdgC99k9y4B9a9c0C9io40B99980C8p65g0B6zuo0Cbs2o0B67zw0Ccjxg0B69uk0Ccjxg0B4ml80C5mf4",
        "40B49mk0Chaas0B316k0Ccls40B4ml80Ccls40B66580Ccls40B67zw0C981s40B6u7w0Cbiw40B5rbw0Cd0lg",
        "0B5ed80Ccyqs0B5ed80Cdbpg0B64ak0Ccyqs0B64ak0Ccls40B5rbw0Cdbpg0B51ek0Cdbpg0B6h980Cc8tg0B",
        "6h980Cc8tg0B64ak0Cc8tg0B6u7w0Cbxpg0B7iak0Cbiw40B6u7w0Cbiw40B7k580Cbiw40B6u7w0Cc8tg0B6h",
        "980Cdbpg0B5ed80Cw5hg0B5nmk0Cc8tg0B6h980Cdbpg0B5rbw0Cbvus0B6h980Ccls40B64ak0Ccls40B6h98",
        "0Cc8tg0B6h980Cc8tg0B6u7w0Cc8tg0B64ak0Ccls40B64ak0Ccls40B6h980Cc8tg0B6h980Cc8tg0B6h980C",
        "c8tg0B6h980Cdbpg0B5ed80B9vi5zj"]⟩,
    ⟨"America/Curacao", [⟨-276, false⟩, ⟨-270, false⟩, ⟨-240, false⟩],
      ["B5ayof7Crlo7qd"]⟩,
    ⟨"America/Danmarkshavn", [⟨-75, false⟩, ⟨-180, false⟩, ⟨-120, true⟩, ⟨0, false⟩],
      ["B7mp8g0Cx8nx3kB8zrk0C9d1c0B9d1c0C9d1c0B9d1c0C9d1c0B9d1c0C9d1c0B9q000C9d1c0B9d1c0C9d1c0",
        "B9d1c0C9d1c0B9d1c0C9d1c0B9d1c0C9d1c0B9d1c0C9d1c0B9q000C9d1c0B9d1c0C9d1c0B9d1c0C9d1c0B9",
        "d1c0C9d1c0B9d1c0C9d1c0B9d1c0D53hk0"]⟩,
    ⟨"America/Dawson",
      [⟨-558, false⟩, ⟨-540, false⟩, ⟨-480, true⟩, ⟨-420, true⟩, ⟨-480, false⟩, ⟨-420, false⟩],
      ["B0C8ive7kBa2vw0Casys0B882c0Cbmiwc0C1tz000B2e180Da7n3w0B9q000E465k00D3e2is0E9cyk0D9d440",
        "E9cyk0D9d440E9px80D905g0E9px80D9d440E9cyk0D9d440E9cyk0D9d440E9cyk0D8a840Eafuk0D8a840Ea",
        "st80D7x9g0East80D7x9g0East80D8a840Eafuk0D8a840Eafuk0D8a840East80D7x9g0East80D7x9g0East",
        "80D8a840Eafuk0D8a840Eafuk0D8a840Eafuk0D8a840East80D7x9g0East80D7x9g0East80D8a840Eafuk0",
        "D8a840Eafuk0D8a840East80D7x9g0East80D7x9g0East80D6udg0Ec8nw0D6hes0Ec8nw0D6hes0Ec8nw0D6",
        "udg0Ec8nw0D6hes0Ec8nw0D6hes0Ec8nw0D6hes0Ec8nw0D6hes0Ec8nw0D6hes0Ec8nw0D6udg0Ec8nw0D6he",
        "s0Ec8nw0D6hes0Ec8nw0D6hes0Ec8nw0D6hes0Fc8ic0"]⟩,
    ⟨"America/Dawson_Creek", [⟨-481, false⟩, ⟨-480, false⟩, ⟨-420, true⟩, ⟨-420, false⟩],
      ["B0C8ivbfkBa2vw0Cc5jxg0C1tz2s0B2dyg0Ctj1g0B7x3w0Casys0B7x3w0Casys0B7x3w0Cb5xg0B7k580Cb5",
        "xg0B7x3w0Casys0B7x3w0Casys0B7x3w0Casys0B7x3w0Casys0B7x3w0Cb5xg0B7x3w0Casys0B7x3w0Casys",
        "0B7x3w0Casys0B7x3w0Casys0B7x3w0Cb5xg0B7k580Cb5xg0B9cyk0C9d440B9cyk0C9d440B9cyk0C9d440B",
        "9px80C905g0B9px80C9d440B9cyk0C9d440B9cyk0C9d440B9cyk0C9d440B9cyk0C9d440B9px80C9d440D69",
        "uk0"]⟩,
    ⟨"America/Denver", [⟨-420, false⟩, ⟨-360, true⟩],
      ["A0B8i5bbkAast80B7x9g0Aast80B7x9g0Ab5rw0B7kas0A2vmk0Bataw40B1tz5k0A2dvo0Ba7n9g0A9px80B9",
        "05g0A9px80B9d440A9cyk0B9d440A9cyk0B9d440A9cyk0B9d440A9cyk0B9d440A9px80B9d440A9cyk0B9d4",
        "40A9cyk0B3lpg0Af4d80B64g40Aclmk0B9d440A9px80B905g0A9px80B9d440A9cyk0B9d440A9cyk0B9d440",
        "A9cyk0B9d440A9cyk0B9d440A9px80B905g0A9px80B9d440A9cyk0B9d440A9cyk0B9d440A9cyk0B8a840Aa",
        "fuk0B8a840Aast80B7x9g0Aast80B7x9g0Aast80B8a840Aafuk0B8a840Aafuk0B8a840Aast80B7x9g0Aast",
        "80B7x9g0Aast80B8a840Aafuk0B8a840Aafuk0B8a840Aafuk0B8a840Aast80B7x9g0Aast80B7x9g0Aast80",
        "B8a840Aafuk0B8a840Aafuk0B8a840Aast80B7x9g0Aast80B7x9g0Aast80B6udg0Ac8nw0B6hes0Ac8nw0B6",
        "hes0Ac8nw0B6udg0Ac8nw0B6hes0Ac8nw0B6hes0Ac8nw0B6hes0Ac8nw0B6hes0Ac8nw0B6hes0Ac8nw0B6ud",
        "g0Ac8nw0B6hes0Ac8nw0B6hes0Ac8nw0B6hes0Ac8nw0B6hes0Ac8nw0B6udg0Ac8nw0B6hes0Ac8nw0B6hes0",
        "Ac8nw0B6hes0Ac8nw0B6hes0Ac8nw0B6hes0Ac8nw0B6udg0Ac8nw0B6hes0Ac8nw0B6hes0Ac8nw0B6hes0Ac",
        "8nw0B6hes0Ac8nw0B6udg0Ac8nw0B6hes0Ac8nw0B6hes0Ac8nw0B6hes0Ac8nw0B6hes0Ac8nw0B6hes0Ac8n",
        "w0"]⟩,
    ⟨"America/Detroit", [⟨-332, false⟩, ⟨-360, false⟩, ⟨-300, false⟩, ⟨-240, true⟩],
      ["B1lbn17C5eraudDdyeyk0D1tzb40C2dq40D1c9440C7x3w0D9rlbxoC71s2cD9d440C9cyk0D2cmdg0C9cyk0D",
        "3lpg0Cf4d80D9d440C9cyk0D9d440C9px80D905g0C9px80D9d440C9cyk0D9d440C9cyk0D9d440C9cyk0D9d",
        "440C9cyk0D9d440C9px80D905g0C9px80D9d440C9cyk0D9d440C9cyk0D9d440C9cyk0D8a840Cafuk0D8a84",
        "0Cast80D7x9g0Cast80D7x9g0Cast80D8a840Cafuk0D8a840Cafuk0D8a840Cast80D7x9g0Cast80D7x9g0C",
        "ast80D8a840Cafuk0D8a840Cafuk0D8a840Cafuk0D8a840Cast80D7x9g0Cast80D7x9g0Cast80D8a840Caf",
        "uk0D8a840Cafuk0D8a840Cast80D7x9g0Cast80D7x9g0Cast80D6udg0Cc8nw0D6hes0Cc8nw0D6hes0Cc8nw",
        "0D6udg0Cc8nw0D6hes0Cc8nw0D6hes0Cc8nw0D6hes0Cc8nw0D6hes0Cc8nw0D6hes0Cc8nw0D6udg0Cc8nw0D",
        "6hes0Cc8nw0D6hes0Cc8nw0D6hes0Cc8nw0D6hes0Cc8nw0D6udg0Cc8nw0D6hes0Cc8nw0D6hes0Cc8nw0D6h",
        "es0Cc8nw0D6hes0Cc8nw0D6hes0Cc8nw0D6udg0Cc8nw0D6hes0Cc8nw0D6hes0Cc8nw0D6hes0Cc8nw0D6hes",
        "0Cc8nw0D6udg0Cc8nw0D6hes0Cc8nw0D6hes0Cc8nw0D6hes0Cc8nw0D6hes0Cc8nw0D6hes0Cc8nw0"]⟩,
    ⟨"America/Dominica", [⟨-246, false⟩, ⟨-240, false⟩],
      ["B4zc4ek"]⟩,
    ⟨"America/Edmonton", [⟨-454, false⟩, ⟨-420, false⟩, ⟨-360, true⟩],
      ["B2glq00C629inkBa2vw0C8n6s0B29ek0Ch6lg0B9px80C905g0B7x3w0Cb5xg0B7k580Cb5xg0B7x3w0C9l0g4",
        "0C1tz5k0B2dvo0Ctj1g0B7x3w0Cctzk40B9cyk0C9d440B9cyk0C9d440B9cyk0C9d440B9cyk0C9d440B9px8",
        "0C905g0B9px80C9d440B9cyk0C9d440B9cyk0C9d440B9cyk0C9d440B9cyk0C9d440B9px80C905g0B9px80C",
        "9d440B9cyk0C9d440B9cyk0C9d440B9cyk0C8a840Bafuk0C8a840Bast80C7x9g0Bast80C7x9g0Bast80C8a",
        "840Bafuk0C8a840Bafuk0C8a840Bast80C7x9g0Bast80C7x9g0Bast80C8a840Bafuk0C8a840Bafuk0C8a84",
        "0Bafuk0C8a840Bast80C7x9g0Bast80C7x9g0Bast80C8a840Bafuk0C8a840Bafuk0C8a840Bast80C7x9g0B",
        "ast80C7x9g0Bast80C6udg0Bc8nw0C6hes0Bc8nw0C6hes0Bc8nw0C6udg0Bc8nw0C6hes0Bc8nw0C6hes0Bc8",
        "nw0C6hes0Bc8nw0C6hes0Bc8nw0C6hes0Bc8nw0C6udg0Bc8nw0C6hes0Bc8nw0C6hes0Bc8nw0C6hes0Bc8nw",
        "0C6hes0Bc8nw0C6udg0Bc8nw0C6hes0Bc8nw0C6hes0Bc8nw0C6hes0Bc8nw0C6hes0Bc8nw0C6hes0Bc8nw0C",
        "6udg0Bc8nw0C6hes0Bc8nw0C6hes0Bc8nw0C6hes0Bc8nw0C6hes0Bc8nw0C6udg0Bc8nw0C6hes0Bc8nw0C6h",
        "es0Bc8nw0C6hes0Bc8nw0C6hes0Bc8nw0C6hes0Bc8nw0"]⟩,
    ⟨"America/Eirunepe", [⟨-279, false⟩, ⟨-300, false⟩, ⟨-240, true⟩, ⟨-240, false⟩],
      ["B6aelxcC99ka68B9a9c0C9io40B99980C8p65g0B6zuo0Cbs2o0B67zw0Ccjxg0B69uk0Ccjxg0B4ml80C5mf4",
        "40B49mk0Chaas0B316k0Ccls40B4ml80Ccls40B66580Ccls40B67zw0C981s40B6u7w0Cbiw40B5rbw0Cd0lg",
        "0B5ed80C2yy2s0B6h980D7hg2s0B2t2t80Bcmiwjj"]⟩,
    ⟨"America/El_Salvador", [⟨-357, false⟩, ⟨-360, false⟩, ⟨-300, true⟩],
      ["B9xxw68Cymao5cB7k580Cb5xg0B7k580"]⟩,
    ⟨"America/Fort_Nelson", [⟨-491, false⟩, ⟨-480, false⟩, ⟨-420, true⟩, ⟨-420, false⟩],
      ["B0C8ivbfkBa2vw0Cc5jxg0C1tz2s0B2dyg0Ctj1g0B7x3w0Casys0B7x3w0Casys0B7x3w0Cb5xg0B7k580Cb5",
        "xg0B7x3w0Casys0B7x3w0Casys0B7x3w0Casys0B7x3w0Casys0B7x3w0Cb5xg0B7x3w0Casys0B7x3w0Casys",
        "0B7x3w0Casys0B7x3w0Casys0B7x3w0Cb5xg0B7k580Cb5xg0B9cyk0C9d440B9cyk0C9d440B9cyk0C9d440B",
        "9px80C905g0B9px80C9d440B9cyk0C9d440B9cyk0C9d440B9cyk0C9d440B9cyk0C9d440B9px80C9d440B9c",
        "yk0C9d440B9cyk0C9d440B9cyk0C9d440B9cyk0C9d440B9px80C905g0B9px80C9d440B9cyk0C9d440B9cyk",
        "0C9d440B9cyk0C9d440B9cyk0C9d440B9px80C905g0B9px80C9d440B9cyk0C9d440B9cyk0C9d440B9cyk0C",
        "8a840Bafuk0C8a840Bast80C7x9g0Bast80C7x9g0Bast80C8a840Bafuk0C8a840Bafuk0C8a840Bast80C7x",
        "9g0Bast80C7x9g0Bast80C8a840Bafuk0C8a840Bafuk0C8a840Bafuk0C8a840Bast80C7x9g0Bast80C7x9g",
        "0Bast80C8a840Bafuk0C8a840Bafuk0C8a840Bast80C7x9g0Bast80C7x9g0Bast80C6udg0Bc8nw0C6hes0B",
        "c8nw0C6hes0Bc8nw0C6udg0Bc8nw0C6hes0Bc8nw0C6hes0Bc8nw0C6hes0Bc8nw0C6hes0Bc8nw0D6hes0"]⟩,
    ⟨"America/Fortaleza", [⟨-154, false⟩, ⟨-180, false⟩, ⟨-120, true⟩],
      ["B6aeg48C99kafcB9a9c0C9io40B99980C8p65g0B6zuo0Cbs2o0B67zw0Ccjxg0B69uk0Ccjxg0B4ml80C5mf4",
        "40B49mk0Chaas0B316k0Ccls40B4ml80Ccls40B66580Ccls40B67zw0C981s40B6u7w0Cbiw40B5rbw0Cd0lg",
        "0B5ed80Ccyqs0B5ed80Cdbpg0B64ak0C514g40B7k580Cbiw40Bpuk0Cid6s0B6h980Biqwe3j"]⟩,
    ⟨"America/Glace_Bay", [⟨-240, false⟩, ⟨-180, true⟩],
      ["A9fg38B89fk8cAa2vw0Bc5jxg0B1tzdw0A2dnc0B3y8g40A7x3w0B9pa5g0A9cyk0B9d440A9cyk0B9d440A9c",
        "yk0B9d440A9cyk0B9d440A9px80B905g0A9px80B9d440A9cyk0B9d440A9cyk0B9d440A9cyk0B9d440A9cyk",
        "0B9d440A9px80B905g0A9px80B9d440A9cyk0B9d440A9cyk0B9d440A9cyk0B8a840Aafuk0B8a840Aast80B",
        "7x9g0Aast80B7x9g0Aast80B8a840Aafuk0B8a840Aafuk0B8a840Aast80B7x9g0Aast80B7x9g0Aast80B8a",
        "840Aafuk0B8a840Aafuk0B8a840Aafuk0B8a840Aast80B7x9g0Aast80B7x9g0Aast80B8a840Aafuk0B8a84",
        "0Aafuk0B8a840Aast80B7x9g0Aast80B7x9g0Aast80B6udg0Ac8nw0B6hes0Ac8nw0B6hes0Ac8nw0B6udg0A",
        "c8nw0B6hes0Ac8nw0B6hes0Ac8nw0B6hes0Ac8nw0B6hes0Ac8nw0B6hes0Ac8nw0B6udg0Ac8nw0B6hes0Ac8",
        "nw0B6hes0Ac8nw0B6hes0Ac8nw0B6hes0Ac8nw0B6udg0Ac8nw0B6hes0Ac8nw0B6hes0Ac8nw0B6hes0Ac8nw",
        "0B6hes0Ac8nw0B6hes0Ac8nw0B6udg0Ac8nw0B6hes0Ac8nw0B6hes0Ac8nw0B6hes0Ac8nw0B6hes0Ac8nw0B",
        "6udg0Ac8nw0B6hes0Ac8nw0B6hes0Ac8nw0B6hes0Ac8nw0B6hes0Ac8nw0B6hes0Ac8nw0"]⟩,
    ⟨"America/Goose_Bay",
      [⟨-242, false⟩, ⟨-211, false⟩, ⟨-151, true⟩, ⟨-210, false⟩, ⟨-150, true⟩, ⟨-240, false⟩,
        ⟨-180, true⟩, ⟨-120, true⟩],
      ["B0C8iuyz0Ba2vw0D8kjbw0EkzjykD7k580Eb5xg0D7k580Eb5xg0D7k580Ebiw40D776k0Ebiw40D7k580Eb5x",
        "g0D7k580Eb5xg0E1pb260D2dly0Ebiw40D7k580Eb5xg0D7k580Eb5xg0D7k580Eb5xg0D7k580Ebiw40D7k58",
        "0Eag040D7x3w0Easys0D7x3w0Easys0D7x3w0Easys0D7x3w0Easys0D7x3w0Eb5xg0D7x3w0Easys0D7x3w0E",
        "asys0D7x3w0Easys0D7x3w0Easys0D9px80E9d440D9cyk0E9d440D9cyk0E9d440D9cyk0E9d440D9cyk0E9d",
        "440D9px80F6y2s0G22420F9px80G9d440F9cyk0G9d440F9cyk0G9d440F9cyk0G9d440F9cyk0G9d440F9px8",
        "0G9d440F9cyk0G9d440F9cyk0G9d440F9cyk0G9d440F9cyk0G9d440F9px80G905g0F9px80G9d440F9cyk0G",
        "9d440F9cyk0G9d440F9cyk0G9d440F9cyk0G9d440F9px80G905g0F9px80G9d440F9cyk0G9d440F9cyk0G9d",
        "440F9cyk0G8a2loFafuk0H8a840Fasqg0G7xc80Fast80G7x9g0Fast80G8a840Fafuk0G8a840Fafuk0G8a84",
        "0Fast80G7x9g0Fast80G7x9g0Fast80G8a840Fafuk0G8a840Fafuk0G8a840Fafuk0G8a840Fast80G7x9g0F",
        "ast80G7x9g0Fast80G8a840Fafuk0G8a840Fafuk0G8a840Fast80G7x9g0Fast80G7x9g0Fast80G6udg0Fc8",
        "nw0G6hes0Fc8nw0G6hes0Fc8nw0G6udg0Fc8nw0G6hes0Fc8tecG6hes0Fc8nw0G6hes0Fc8nw0G6hes0Fc8nw",
        "0G6hes0Fc8nw0G6udg0Fc8nw0G6hes0Fc8nw0G6hes0Fc8nw0G6hes0Fc8nw0G6hes0Fc8nw0G6udg0Fc8nw0G",
        "6hes0Fc8nw0G6hes0Fc8nw0G6hes0Fc8nw0G6hes0Fc8nw0G6hes0Fc8nw0G6udg0Fc8nw0G6hes0Fc8nw0G6h",
        "es0Fc8nw0G6hes0Fc8nw0G6hes0Fc8nw0G6udg0Fc8nw0G6hes0Fc8nw0G6hes0Fc8nw0G6hes0Fc8nw0G6hes",
        "0Fc8nw0G6hes0Fc8nw0"]⟩,
    ⟨"America/Grand_Turk",
      [⟨-285, false⟩, ⟨-307, false⟩, ⟨-300, false⟩, ⟨-240, true⟩, ⟨-240, false⟩],
      ["B0C5aecjiDz3brw2C9cyk0D9d440C9cyk0D9d440C9cyk0D9d440C9px80D905g0C9px80D9d440C9cyk0D9d4",
        "40C9cyk0D9d440C9cyk0D8a840Cafuk0D8a840Cast80D7x9g0Cast80D7x9g0Cast80D8a840Cafuk0D8a840",
        "Cafuk0D8a840Cast80D7x9g0Cast80D7x9g0Cast80D8a840Cafuk0D8a840Cafuk0D8a840Cafuk0D8a840Ca",
        "st80D7x9g0Cast80D7x9g0Cast80D8a840Cafuk0D8a840Cafuk0D8a840Cast80D7x9g0Cast80D7x9g0Cast",
        "80D6udg0Cc8nw0D6hes0Cc8nw0D6hes0Cc8nw0D6udg0Cc8nw0D6hes0Cc8nw0D6hes0Cc8nw0D6hes0Cc8nw0",
        "D6hes0Cc8nw0E6hes0D1kj6o0Cc8nw0D6hes0Cc8nw0D6hes0Cc8nw0D6udg0Cc8nw0D6hes0Cc8nw0D6hes0C",
        "c8nw0D6hes0Cc8nw0D6hes0Cc8nw0D6hes0Cc8nw0D6udg0Cc8nw0D6hes0Cc8nw0D6hes0Cc8nw0D6hes0Cc8",
        "nw0D6hes0Cc8nw0D6udg0Cc8nw0D6hes0Cc8nw0D6hes0Cc8nw0D6hes0Cc8nw0D6hes0Cc8nw0D6hes0Cc8nw",
        "0"]⟩,
    ⟨"America/Grenada", [⟨-247, false⟩, ⟨-240, false⟩],
      ["B4zc4f8"]⟩,
    ⟨"America/Guadeloupe", [⟨-246, false⟩, ⟨-240, false⟩],
      ["B4y5j1s"]⟩,
    ⟨"America/Guatemala", [⟨-362, false⟩, ⟨-360, false⟩, ⟨-300, true⟩],
      ["B8rt8f0Css0akkB4ofw0C4tidg0B6djw0C3wwas0B8n180C7n5ms0B7x3w0"]⟩,
    ⟨"America/Guayaquil", [⟨-319, false⟩, ⟨-314, false⟩, ⟨-300, false⟩, ⟨-240, true⟩],
      ["B0Cf5ssuwDwb620oC3jp80Cnglhvj"]⟩,
    ⟨"America/Guyana", [⟨-233, false⟩, ⟨-240, false⟩, ⟨-225, false⟩, ⟨-180, false⟩],
      ["B50xifbC1va8c9Dvj6nb0B8p0jd0Bnwp4jj"]⟩,
    ⟨"America/Halifax", [⟨-254, false⟩, ⟨-240, false⟩, ⟨-180, true⟩],
      ["B9fgrkC777go0B9et80Cst9o0Ba2vw0Cssyk0B5rbw0Ccv1g0B69uk0Cc6ys0B6kyk0Cci2s0B67zw0Cci2s0B",
        "6w2k0Cbu040B7lzw0Cbu040B66580Cbu040B7lzw0Cbu040B64ak0Ccls40B5v180Ccv1g0B6j3w0Cc6ys0B79",
        "180Cb42s0B7lzw0Cb42s0B7yyk0Cbu040B64ak0Cdbpg0B66580Ccls40B5ed80Cbu040B7lzw0Cb42s0B7lzw",
        "0Ccjxg0B66580Cbh1g0B7lzw0Cb42s0B7lzw0C6uj00C1tzdw0B2dnc0Casys0B7x3w0Casys0B7x3w0Casys0",
        "B7x3w0Casys0B7x3w0Ctw040B7x3w0Casys0B7x3w0Casys0B7x3w0Casys0B7x3w0Ctw040B7x3w0Casys0B7",
        "x3w0Casys0B7x3w0Casys0B7x3w0C1cm2s0B9cyk0C9d440B9cyk0C9d440B9cyk0C9d440B9px80C905g0B9p",
        "x80C9d440B9cyk0C9d440B9cyk0C9d440B9cyk0C9d440B9cyk0C9d440B9px80C9d440B9cyk0C9d440B9cyk",
        "0C9d440B9cyk0C9d440B9cyk0C9d440B9px80C905g0B9px80C9d440B9cyk0C9d440B9cyk0C9d440B9cyk0C",
        "9d440B9cyk0C9d440B9px80C905g0B9px80C9d440B9cyk0C9d440B9cyk0C9d440B9cyk0C8a840Bafuk0C8a",
        "840Bast80C7x9g0Bast80C7x9g0Bast80C8a840Bafuk0C8a840Bafuk0C8a840Bast80C7x9g0Bast80C7x9g",
        "0Bast80C8a840Bafuk0C8a840Bafuk0C8a840Bafuk0C8a840Bast80C7x9g0Bast80C7x9g0Bast80C8a840B",
        "afuk0C8a840Bafuk0C8a840Bast80C7x9g0Bast80C7x9g0Bast80C6udg0Bc8nw0C6hes0Bc8nw0C6hes0Bc8",
        "nw0C6udg0Bc8nw0C6hes0Bc8nw0C6hes0Bc8nw0C6hes0Bc8nw0C6hes0Bc8nw0C6hes0Bc8nw0C6udg0Bc8nw",
        "0C6hes0Bc8nw0C6hes0Bc8nw0C6hes0Bc8nw0C6hes0Bc8nw0C6udg0Bc8nw0C6hes0Bc8nw0C6hes0Bc8nw0C",
        "6hes0Bc8nw0C6hes0Bc8nw0C6hes0Bc8nw0C6udg0Bc8nw0C6hes0Bc8nw0C6hes0Bc8nw0C6hes0Bc8nw0C6h",
        "es0Bc8nw0C6udg0Bc8nw0C6hes0Bc8nw0C6hes0Bc8nw0C6hes0Bc8nw0C6hes0Bc8nw0C6hes0Bc8nw0"]⟩,
    ⟨"America/Havana", [⟨-329, false⟩, ⟨-330, false⟩, ⟨-300, false⟩, ⟨-240, true⟩],
      ["B0CcbcuwwD1icfyoC69uk0D62s040C4ofw0De1ms0C51ek0De1ms0C4ofw0D1fhs40C4ofw0De1ms0C4ofw0D9",
        "s9k40C67zw0Dcedg0C6h980D9o840C7yyk0Db5xg0C7k580Dbvus0C9cyk0D9d440C9cyk0D9d440C9px80D9d",
        "440C8a2k0Dag040C8bx80Dae5g0C8drw0Dacas0C9cyk0D9d440C9px80D905g0C9px80D9q2s0C7x3w0D8a84",
        "0Cast80D7x9g0Cast80Dasys0C7x3w0Dasys0C7x3w0Dasys0C7x3w0Dasys0C8a2k0Dag040C8a2k0D7x9g0C",
        "ast80D7x9g0Cast80D8a840Cafuk0D8a840Cafuk0D905g0Ca2vw0D905g0C9q000D902o0C9q000D902o0C9q",
        "000D902o0C9q000D902o0C9q000D9d1c0C9d1c0D9d1c0C9q000D8n400Casw00D7x6o0Cb5uo0D7x6o0Casw0",
        "0D7x6o0Casw00D8a5c0Cafxc0D8a5c0Cafxc0D7x6o0C1cm000D6uao0Cbvs00D779c0Cbitc0D6uao0Cbvs00",
        "D779c0Cbvs00D779c0Cc8qo0D779c0Cb5uo0D6hc00Cc8qo0D6hc00Cc8qo0D6hc00Cc8qo0D6uao0Cc8qo0D6",
        "hc00Cc8qo0D6hc00Cc8qo0D6hc00Cc8qo0D6hc00Cc8qo0D6uao0Cc8qo0D6hc00Cc8qo0D6hc00Cc8qo0D6hc",
        "00Cc8qo0D6hc00Cc8qo0D6hc00Cc8qo0D6uao0Cc8qo0D6hc00Cc8qo0D6hc00Cc8qo0D6hc00Cc8qo0D6hc00",
        "Cc8qo0D6uao0Cc8qo0D6hc00Cc8qo0D6hc00Cc8qo0D6hc00Cc8qo0D6hc00Cc8qo0D6hc00Cc8qo0"]⟩,
    ⟨"America/Hermosillo", [⟨-444, false⟩, ⟨-420, false⟩, ⟨-360, false⟩, ⟨-360, true⟩],
      ["BagpwfkC2u5s00B1si580D8jhg0B7x3w0C9eys0B591h80Ds5qoc0Bafuk0D8a840Bafuk0D8a840Bafuk0"]⟩,
    ⟨"America/Indiana/Indianapolis",
      [⟨-345, false⟩, ⟨-360, false⟩, ⟨-300, true⟩, ⟨-300, false⟩, ⟨-240, true⟩],
      ["B0C8i58jkBast80C7x9g0Bast80Cbaw840B51ek0C6w840C1tz8c0B2dsw0Casys0B7x3w0Casys0B7x3w0Cas",
        "ys0B7x3w0Casys0B7x3w0Cb5xg0B7k580Cb5xg0B7x3w0Casys0B7x3w0Casys0B7x3w0Casys0B7x3w0Dasys",
        "0B19q7w0Dasys0E5qonw0D9cyk0E9d440D9cyk0Eihslg0Dast80E6udg0Dc8nw0E6hes0Dc8nw0E6hes0Dc8n",
        "w0E6udg0Dc8nw0E6hes0Dc8nw0E6hes0Dc8nw0E6hes0Dc8nw0E6hes0Dc8nw0E6hes0Dc8nw0E6udg0Dc8nw0",
        "E6hes0Dc8nw0E6hes0Dc8nw0E6hes0Dc8nw0E6hes0Dc8nw0E6udg0Dc8nw0E6hes0Dc8nw0E6hes0Dc8nw0E6",
        "hes0Dc8nw0E6hes0Dc8nw0E6hes0Dc8nw0E6udg0Dc8nw0E6hes0Dc8nw0E6hes0Dc8nw0E6hes0Dc8nw0E6he",
        "s0Dc8nw0E6udg0Dc8nw0E6hes0Dc8nw0E6hes0Dc8nw0E6hes0Dc8nw0E6hes0Dc8nw0E6hes0Dc8nw0"]⟩,
    ⟨"America/Indiana/Knox", [⟨-346, false⟩, ⟨-360, false⟩, ⟨-300, true⟩, ⟨-300, false⟩],
      ["B0C8i58jkBast80C7x9g0Bast80Cbmtus0C1tz8c0B2dsw0Ctj1g0B7x3w0Casys0B7x3w0Casys0B7x3w0Cb5",
        "xg0B7k580Cb5xg0B7x3w0Casys0B7x3w0Casys0B7x3w0Casys0B7x3w0Casys0B9px80C9d440B9cyk0C9d44",
        "0B7x3w0Casys0B7x3w0Casys0B9cyk0C9d440B9px80C9d440B9cyk0D9d440Bs3180C1twas0B9cyk0C9d440",
        "B9cyk0C9d440B9cyk0C9d440B9cyk0C9d440B9px80C9d440B9cyk0C9d440B9cyk0C3lpg0Bf4d80C64g40Bc",
        "lmk0C9d440B9px80C905g0B9px80C9d440B9cyk0C9d440B9cyk0C9d440B9cyk0C9d440B9cyk0C9d440B9px",
        "80C905g0B9px80C9d440B9cyk0C9d440B9cyk0C9d440B9cyk0C8a840Bafuk0C8a840Bast80C7x9g0Bast80",
        "C7x9g0Bast80C8a840Dafuk0C7j5400Basw00C6udg0Bc8nw0C6hes0Bc8nw0C6hes0Bc8nw0C6udg0Bc8nw0C",
        "6hes0Bc8nw0C6hes0Bc8nw0C6hes0Bc8nw0C6hes0Bc8nw0C6hes0Bc8nw0C6udg0Bc8nw0C6hes0Bc8nw0C6h",
        "es0Bc8nw0C6hes0Bc8nw0C6hes0Bc8nw0C6udg0Bc8nw0C6hes0Bc8nw0C6hes0Bc8nw0C6hes0Bc8nw0C6hes",
        "0Bc8nw0C6hes0Bc8nw0C6udg0Bc8nw0C6hes0Bc8nw0C6hes0Bc8nw0C6hes0Bc8nw0C6hes0Bc8nw0C6udg0B",
        "c8nw0C6hes0Bc8nw0C6hes0Bc8nw0C6hes0Bc8nw0C6hes0Bc8nw0C6hes0Bc8nw0"]⟩,
    ⟨"America/Indiana/Marengo",
      [⟨-345, false⟩, ⟨-360, false⟩, ⟨-300, true⟩, ⟨-300, false⟩, ⟨-240, true⟩],
      ["B0C8i58jkBast80C7x9g0Bast80Cbmtus0C1tz8c0B2dsw0C2wsas0B7x3w0C1c9440B7x3w0Casys0B7x3w0C",
        "b5xg0B7x3w0Casys0B7x3w0Casys0B7x3w0Casys0B7x3w0Casys0B7x3w0Db5xg0E465h80D9cyk0E9d440D9",
        "cyk0E9d440D9px80E9d440D9cyk0E9d440D9cyk0D3lpg0Df4g00E64dc0Dclmk0Efvt9g0Dast80E6udg0Dc8",
        "nw0E6hes0Dc8nw0E6hes0Dc8nw0E6udg0Dc8nw0E6hes0Dc8nw0E6hes0Dc8nw0E6hes0Dc8nw0E6hes0Dc8nw",
        "0E6hes0Dc8nw0E6udg0Dc8nw0E6hes0Dc8nw0E6hes0Dc8nw0E6hes0Dc8nw0E6hes0Dc8nw0E6udg0Dc8nw0E",
        "6hes0Dc8nw0E6hes0Dc8nw0E6hes0Dc8nw0E6hes0Dc8nw0E6hes0Dc8nw0E6udg0Dc8nw0E6hes0Dc8nw0E6h",
        "es0Dc8nw0E6hes0Dc8nw0E6hes0Dc8nw0E6udg0Dc8nw0E6hes0Dc8nw0E6hes0Dc8nw0E6hes0Dc8nw0E6hes",
        "0Dc8nw0E6hes0Dc8nw0"]⟩,
    ⟨"America/Indiana/Petersburg",
      [⟨-349, false⟩, ⟨-360, false⟩, ⟨-300, true⟩, ⟨-300, false⟩, ⟨-240, true⟩],
      ["B0C8i58jkBast80C7x9g0Bast80Cbmtus0C1tz8c0B2dsw0C501ek0B7kas0Cb5xg0B7x3w0Casys0B7x3w0Ca",
        "sys0B7x3w0Casys0B7x3w0Casys0B7x3w0Cb5xg0B9cyk0C9d440B9cyk0C9d440B9cyk0C9d440B9cyk0D9d4",
        "40Bsfzw0C9d440B9cyk0C9d440B9cyk0C9d440B9cyk0C9d440B9cyk0C9d440B9px80C9d440B9cyk0C9d440",
        "B9cyk0C3lpg0Bf4d80C64g40Bclmk0C9d440B9px80C905g0D9px80Ceu02o0Basw00C6udg0Dc8nw0E6hc00D",
        "c8nw0E6hes0Dc8nw0E6udg0Dc8nw0E6hes0Dc8nw0E6hes0Dc8nw0E6hes0Dc8nw0E6hes0Dc8nw0E6hes0Dc8",
        "nw0E6udg0Dc8nw0E6hes0Dc8nw0E6hes0Dc8nw0E6hes0Dc8nw0E6hes0Dc8nw0E6udg0Dc8nw0E6hes0Dc8nw",
        "0E6hes0Dc8nw0E6hes0Dc8nw0E6hes0Dc8nw0E6hes0Dc8nw0E6udg0Dc8nw0E6hes0Dc8nw0E6hes0Dc8nw0E",
        "6hes0Dc8nw0E6hes0Dc8nw0E6udg0Dc8nw0E6hes0Dc8nw0E6hes0Dc8nw0E6hes0Dc8nw0E6hes0Dc8nw0E6h",
        "es0Dc8nw0"]⟩,
    ⟨"America/Indiana/Tell_City",
      [⟨-347, false⟩, ⟨-360, false⟩, ⟨-300, true⟩, ⟨-300, false⟩, ⟨-240, true⟩],
      ["B0C8i58jkBast80C7x9g0Bast80Cbmtus0C1tz8c0B2dsw0C501ek0B7kas0Cb5xg0B7x3w0Casys0B7x3w0Ca",
        "sys0B7x3w0Casys0B7x3w0Casys0B7x3w0Cb5xg0B9cyk0C9d440B9cyk0C9d440B9cyk0D9d440B1tw580C9d",
        "440B9cyk0E9d440D9cvs0E9d440D9cyk0Cihslg0Basw00C6udg0Bc8nw0C6hes0Bc8nw0C6hes0Bc8nw0C6ud",
        "g0Bc8nw0C6hes0Bc8nw0C6hes0Bc8nw0C6hes0Bc8nw0C6hes0Bc8nw0C6hes0Bc8nw0C6udg0Bc8nw0C6hes0",
        "Bc8nw0C6hes0Bc8nw0C6hes0Bc8nw0C6hes0Bc8nw0C6udg0Bc8nw0C6hes0Bc8nw0C6hes0Bc8nw0C6hes0Bc",
        "8nw0C6hes0Bc8nw0C6hes0Bc8nw0C6udg0Bc8nw0C6hes0Bc8nw0C6hes0Bc8nw0C6hes0Bc8nw0C6hes0Bc8n",
        "w0C6udg0Bc8nw0C6hes0Bc8nw0C6hes0Bc8nw0C6hes0Bc8nw0C6hes0Bc8nw0C6hes0Bc8nw0"]⟩,
    ⟨"America/Indiana/Vevay",
      [⟨-340, false⟩, ⟨-360, false⟩, ⟨-300, true⟩, ⟨-300, false⟩, ⟨-240, true⟩],
      ["B0C8i58jkBast80C7x9g0Bast80Cbmtus0C1tz8c0B2dsw0D4gyis0E7txx80D9cyk0E9d440D9cyk0E9d440D",
        "9px80E9d440D9cyk0Ehfzhg0Dast80E6udg0Dc8nw0E6hes0Dc8nw0E6hes0Dc8nw0E6udg0Dc8nw0E6hes0Dc",
        "8nw0E6hes0Dc8nw0E6hes0Dc8nw0E6hes0Dc8nw0E6hes0Dc8nw0E6udg0Dc8nw0E6hes0Dc8nw0E6hes0Dc8n",
        "w0E6hes0Dc8nw0E6hes0Dc8nw0E6udg0Dc8nw0E6hes0Dc8nw0E6hes0Dc8nw0E6hes0Dc8nw0E6hes0Dc8nw0",
        "E6hes0Dc8nw0E6udg0Dc8nw0E6hes0Dc8nw0E6hes0Dc8nw0E6hes0Dc8nw0E6hes0Dc8nw0E6udg0Dc8nw0E6",
        "hes0Dc8nw0E6hes0Dc8nw0E6hes0Dc8nw0E6hes0Dc8nw0E6hes0Dc8nw0"]⟩,
    ⟨"America/Indiana/Vincennes",
      [⟨-350, false⟩, ⟨-360, false⟩, ⟨-300, true⟩, ⟨-300, false⟩, ⟨-240, true⟩],
      ["B0C8i58jkBast80C7x9g0Bast80Cbmtus0C1tz8c0B2dsw0Casys0B7x3w0C3fidg0B7x3w0Casys0B7x3w0Cb",
        "5rw0B7kas0Cb5xg0B7x3w0Casys0B7x3w0Casys0B7x3w0Casys0B7x3w0Casys0B9px80C9d440B7k580Cb5x",
        "g0B9cyk0C9d440B9cyk0D9d440E2lz980D9cyk0E9d440D9cyk0Cihslg0Basw00C6udg0Dc8nw0E6hc00Dc8n",
        "w0E6hes0Dc8nw0E6udg0Dc8nw0E6hes0Dc8nw0E6hes0Dc8nw0E6hes0Dc8nw0E6hes0Dc8nw0E6hes0Dc8nw0",
        "E6udg0Dc8nw0E6hes0Dc8nw0E6hes0Dc8nw0E6hes0Dc8nw0E6hes0Dc8nw0E6udg0Dc8nw0E6hes0Dc8nw0E6",
        "hes0Dc8nw0E6hes0Dc8nw0E6hes0Dc8nw0E6hes0Dc8nw0E6udg0Dc8nw0E6hes0Dc8nw0E6hes0Dc8nw0E6he",
        "s0Dc8nw0E6hes0Dc8nw0E6udg0Dc8nw0E6hes0Dc8nw0E6hes0Dc8nw0E6hes0Dc8nw0E6hes0Dc8nw0E6hes0",
        "Dc8nw0"]⟩,
    ⟨"America/Indiana/Winamac",
      [⟨-346, false⟩, ⟨-360, false⟩, ⟨-300, true⟩, ⟨-300, false⟩, ⟨-240, true⟩],
      ["B0C8i58jkBast80C7x9g0Bast80Cbmtus0C1tz8c0B2dsw0Casys0B7x3w0Casys0B7x3w0Casys0B7x3w0Cas",
        "ys0B7x3w0Cb5xg0B7k580Cb5xg0B7x3w0Casys0B7x3w0Casys0B7x3w0Casys0B7x3w0Casys0B9px80C9d44",
        "0B9cyk0C9d440B7x3w0Casys0B7x3w0Casys0B7x3w0Casys0B7x3w0Db5xg0E465h80D9cyk0E9d440D9cyk0",
        "Cihslg0Basw00E6udg0Dc8l40E6hes0Dc8nw0E6hes0Dc8nw0E6udg0Dc8nw0E6hes0Dc8nw0E6hes0Dc8nw0E",
        "6hes0Dc8nw0E6hes0Dc8nw0E6hes0Dc8nw0E6udg0Dc8nw0E6hes0Dc8nw0E6hes0Dc8nw0E6hes0Dc8nw0E6h",
        "es0Dc8nw0E6udg0Dc8nw0E6hes0Dc8nw0E6hes0Dc8nw0E6hes0Dc8nw0E6hes0Dc8nw0E6hes0Dc8nw0E6udg",
        "0Dc8nw0E6hes0Dc8nw0E6hes0Dc8nw0E6hes0Dc8nw0E6hes0Dc8nw0E6udg0Dc8nw0E6hes0Dc8nw0E6hes0D",
        "c8nw0E6hes0Dc8nw0E6hes0Dc8nw0E6hes0Dc8nw0"]⟩,
    ⟨"America/Inuvik", [⟨0, false⟩, ⟨-480, false⟩, ⟨-420, true⟩, ⟨-360, true⟩, ⟨-420, false⟩],
      ["Bqn5vnkCa34zs0B9cyk0C9d440B9cyk0C9d440B9cyk0C9d440B9cyk0C9d440B9px80C905g0B9px80C9d440",
        "B9cyk0D9d440E9cvs0D9d440E9cyk0D9d440E9cyk0D9d440E9px80D905g0E9px80D9d440E9cyk0D9d440E9",
        "cyk0D9d440E9cyk0D8a840Eafuk0D8a840East80D7x9g0East80D7x9g0East80D8a840Eafuk0D8a840Eafu",
        "k0D8a840East80D7x9g0East80D7x9g0East80D8a840Eafuk0D8a840Eafuk0D8a840Eafuk0D8a840East80",
        "D7x9g0East80D7x9g0East80D8a840Eafuk0D8a840Eafuk0D8a840East80D7x9g0East80D7x9g0East80D6",
        "udg0Ec8nw0D6hes0Ec8nw0D6hes0Ec8nw0D6udg0Ec8nw0D6hes0Ec8nw0D6hes0Ec8nw0D6hes0Ec8nw0D6he",
        "s0Ec8nw0D6hes0Ec8nw0D6udg0Ec8nw0D6hes0Ec8nw0D6hes0Ec8nw0D6hes0Ec8nw0D6hes0Ec8nw0D6udg0",
        "Ec8nw0D6hes0Ec8nw0D6hes0Ec8nw0D6hes0Ec8nw0D6hes0Ec8nw0D6hes0Ec8nw0D6udg0Ec8nw0D6hes0Ec",
        "8nw0D6hes0Ec8nw0D6hes0Ec8nw0D6hes0Ec8nw0D6udg0Ec8nw0D6hes0Ec8nw0D6hes0Ec8nw0D6hes0Ec8n",
        "w0D6hes0Ec8nw0D6hes0Ec8nw0"]⟩,
    ⟨"America/Iqaluit", [⟨0, false⟩, ⟨-240, true⟩, ⟨-300, false⟩, ⟨-360, false⟩, ⟨-300, true⟩],
      ["Bl7dqbkB1l3h80C2dq40Bdvfpg0C9cyk0B9d440C9cyk0B9d440C9cyk0B9d440C9cyk0B9d440C9px80B905g",
        "0C9px80B9d440C9cyk0B9d440C9cyk0B9d440C9cyk0B9d440C9cyk0B9d440C9px80B905g0C9px80B9d440C",
        "9cyk0B9d440C9cyk0B9d440C9cyk0B8a840Cafuk0B8a840Cast80B7x9g0Cast80B7x9g0Cast80B8a840Caf",
        "uk0B8a840Cafuk0B8a840Cast80B7x9g0Cast80B7x9g0Cast80B8a840Cafuk0B8a840Cafuk0B8a840Cafuk",
        "0B8a840Dast80E7xc80Cast80B7x6o0Cast80B8a840Cafuk0B8a840Cafuk0B8a840Cast80B7x9g0Cast80B",
        "7x9g0Cast80B6udg0Cc8nw0B6hes0Cc8nw0B6hes0Cc8nw0B6udg0Cc8nw0B6hes0Cc8nw0B6hes0Cc8nw0B6h",
        "es0Cc8nw0B6hes0Cc8nw0B6hes0Cc8nw0B6udg0Cc8nw0B6hes0Cc8nw0B6hes0Cc8nw0B6hes0Cc8nw0B6hes",
        "0Cc8nw0B6udg0Cc8nw0B6hes0Cc8nw0B6hes0Cc8nw0B6hes0Cc8nw0B6hes0Cc8nw0B6hes0Cc8nw0B6udg0C",
        "c8nw0B6hes0Cc8nw0B6hes0Cc8nw0B6hes0Cc8nw0B6hes0Cc8nw0B6udg0Cc8nw0B6hes0Cc8nw0B6hes0Cc8",
        "nw0B6hes0Cc8nw0B6hes0Cc8nw0B6hes0Cc8nw0"]⟩,
    ⟨"America/Jamaica", [⟨-307, false⟩, ⟨-300, false⟩, ⟨-240, true⟩],
      ["A0B5aecjiCwbl182Bf4d80C64g40Bclmk0C9d440B9px80C905g0B9px80C9d440B9cyk0C9d440B9cyk0C9d4",
        "40B9cyk0C9d440B9cyk0C9d440B9px80C905g0B9px80"]⟩,
    ⟨"America/Juneau", [⟨902, false⟩, ⟨-480, false⟩, ⟨-420, true⟩, ⟨-480, true⟩, ⟨-540, false⟩],
      ["B0Ckyi4rkC1tz2s0B2dyg0Ccawis0B9cyk0C9d440B9cyk0C9d440B9px80C9d440B9cyk0C9d440B9cyk0C3l",
        "pg0Bf4d80C64g40Bclmk0C9d440B9px80C905g0B9px80C9d440B9cyk0C9d440B9cyk0D9d440B9d1c0C9d1c",
        "0B9cyk0C9d440B9px80C905g0E9px80E1leo0D7rs80E9cyk0D9d440E9cyk0D9d440E9cyk0D8a840Eafuk0D",
        "8a840East80D7x9g0East80D7x9g0East80D8a840Eafuk0D8a840Eafuk0D8a840East80D7x9g0East80D7x",
        "9g0East80D8a840Eafuk0D8a840Eafuk0D8a840Eafuk0D8a840East80D7x9g0East80D7x9g0East80D8a84",
        "0Eafuk0D8a840Eafuk0D8a840East80D7x9g0East80D7x9g0East80D6udg0Ec8nw0D6hes0Ec8nw0D6hes0E",
        "c8nw0D6udg0Ec8nw0D6hes0Ec8nw0D6hes0Ec8nw0D6hes0Ec8nw0D6hes0Ec8nw0D6hes0Ec8nw0D6udg0Ec8",
        "nw0D6hes0Ec8nw0D6hes0Ec8nw0D6hes0Ec8nw0D6hes0Ec8nw0D6udg0Ec8nw0D6hes0Ec8nw0D6hes0Ec8nw",
        "0D6hes0Ec8nw0D6hes0Ec8nw0D6hes0Ec8nw0D6udg0Ec8nw0D6hes0Ec8nw0D6hes0Ec8nw0D6hes0Ec8nw0D",
        "6hes0Ec8nw0D6udg0Ec8nw0D6hes0Ec8nw0D6hes0Ec8nw0D6hes0Ec8nw0D6hes0Ec8nw0D6hes0Ec8nw0"]⟩,
    ⟨"America/Kentucky/Louisville",
      [⟨-343, false⟩, ⟨-360, false⟩, ⟨-300, true⟩, ⟨-300, false⟩, ⟨-240, true⟩],
      ["B0C8i58jkBast80C7x9g0Bast80Csg5g0B6bp80Ca98o40B7x3w0C6w840C1tz8c0B2dsw0Cast9oB1sw2cC21",
        "gis0B7k580Cb5xg0B7x3w0Casys0B7x3w0Casys0B7x3w0Casys0B7x3w0Casys0B7x3w0Cb5xg0B9cyk0C9d4",
        "40B9cyk0C9d440B9cyk0C9d440B9cyk0C9d440B9px80C9d440D4bh80E3j3xc0D9cyk0E9d440D9cyk0E9d44",
        "0D9cyk0E9d440D9px80E9d440D9cyk0E9d440D9cyk0D3lpg0Df4g00E64dc0Dclmk0E9d440D9px80E905g0D",
        "9px80E9d440D9cyk0E9d440D9cyk0E9d440D9cyk0E9d440D9cyk0E9d440D9px80E905g0D9px80E9d440D9c",
        "yk0E9d440D9cyk0E9d440D9cyk0E8a840Dafuk0E8a840Dast80E7x9g0Dast80E7x9g0Dast80E8a840Dafuk",
        "0E8a840Dafuk0E8a840Dast80E7x9g0Dast80E7x9g0Dast80E8a840Dafuk0E8a840Dafuk0E8a840Dafuk0E",
        "8a840Dast80E7x9g0Dast80E7x9g0Dast80E8a840Dafuk0E8a840Dafuk0E8a840Dast80E7x9g0Dast80E7x",
        "9g0Dast80E6udg0Dc8nw0E6hes0Dc8nw0E6hes0Dc8nw0E6udg0Dc8nw0E6hes0Dc8nw0E6hes0Dc8nw0E6hes",
        "0Dc8nw0E6hes0Dc8nw0E6hes0Dc8nw0E6udg0Dc8nw0E6hes0Dc8nw0E6hes0Dc8nw0E6hes0Dc8nw0E6hes0D",
        "c8nw0E6udg0Dc8nw0E6hes0Dc8nw0E6hes0Dc8nw0E6hes0Dc8nw0E6hes0Dc8nw0E6hes0Dc8nw0E6udg0Dc8",
        "nw0E6hes0Dc8nw0E6hes0Dc8nw0E6hes0Dc8nw0E6hes0Dc8nw0E6udg0Dc8nw0E6hes0Dc8nw0E6hes0Dc8nw",
        "0E6hes0Dc8nw0E6hes0Dc8nw0E6hes0Dc8nw0"]⟩,
    ⟨"America/Kentucky/Monticello",
      [⟨-339, false⟩, ⟨-360, false⟩, ⟨-300, true⟩, ⟨-300, false⟩, ⟨-240, true⟩],
      ["B0C8i58jkBast80C7x9g0Bast80Cbmtus0C1tz8c0B2dsw0Cbs6g40B9cyk0C9d440B9cyk0C9d440B9cyk0C9",
        "d440B9px80C9d440B9cyk0C9d440B9cyk0C3lpg0Bf4d80C64g40Bclmk0C9d440B9px80C905g0B9px80C9d4",
        "40B9cyk0C9d440B9cyk0C9d440B9cyk0C9d440B9cyk0C9d440B9px80C905g0B9px80C9d440B9cyk0C9d440",
        "B9cyk0C9d440B9cyk0C8a840Bafuk0C8a840Bast80C7x9g0Bast80C7x9g0Bast80C8a840Bafuk0C8a840Ba",
        "fuk0C8a840Bast80C7x9g0Bast80C7x9g0Bast80C8a840Bafuk0C8a840Bafuk0C8a840Bafuk0C8a840Bast",
        "80C7x9g0Dast80E7x6o0Dast80E8a840Dafuk0E8a840Dafuk0E8a840Dast80E7x9g0Dast80E7x9g0Dast80",
        "E6udg0Dc8nw0E6hes0Dc8nw0E6hes0Dc8nw0E6udg0Dc8nw0E6hes0Dc8nw0E6hes0Dc8nw0E6hes0Dc8nw0E6",
        "hes0Dc8nw0E6hes0Dc8nw0E6udg0Dc8nw0E6hes0Dc8nw0E6hes0Dc8nw0E6hes0Dc8nw0E6hes0Dc8nw0E6ud",
        "g0Dc8nw0E6hes0Dc8nw0E6hes0Dc8nw0E6hes0Dc8nw0E6hes0Dc8nw0E6hes0Dc8nw0E6udg0Dc8nw0E6hes0",
        "Dc8nw0E6hes0Dc8nw0E6hes0Dc8nw0E6hes0Dc8nw0E6udg0Dc8nw0E6hes0Dc8nw0E6hes0Dc8nw0E6hes0Dc",
        "8nw0E6hes0Dc8nw0E6hes0Dc8nw0"]⟩,
    ⟨"America/La_Paz", [⟨-273, false⟩, ⟨-213, true⟩, ⟨-240, false⟩],
      ["A0Bfkk89wC84ik0C1j8fb57"]⟩,
    ⟨"America/Lima", [⟨-308, false⟩, ⟨-309, false⟩, ⟨-300, false⟩, ⟨-240, true⟩],
      ["B0C3gef9wDfcxjloC4ml80D93us0C9cyk0D9d440C9cyk0Dnw16s0C4ml80De5c40C4ml80D1fr1g0C4ml80D1",
        "yiys0C4ml80Cmuzpvj"]⟩,
    ⟨"America/Los_Angeles", [⟨-473, false⟩, ⟨-480, false⟩, ⟨-420, true⟩],
      ["B0C8i5e3kBast80C7x9g0Bast80Cbmtus0C1tz2s0B2dyg0C1a3c5oBf2iicCowao0B7k800Cb5uo0B7x6o0Ca",
        "sw00B7x6o0Casw00B7x6o0Casw00B7x6o0Casw00B7x6o0Cb5uo0B7x6o0Casw00B7x6o0Casw00B7x6o0Casw",
        "00B7x6o0Casw00B7x6o0Cb5uo0B7k800Cb5uo0B9d1c0C9d1c0B9d1c0C9d1c0B9d1c0C9d1c0B9q000C902o0",
        "B9q000C9d440B9cyk0C9d440B9cyk0C9d440B9cyk0C9d440B9cyk0C9d440B9px80C9d440B9cyk0C9d440B9",
        "cyk0C3lpg0Bf4d80C64g40Bclmk0C9d440B9px80C905g0B9px80C9d440B9cyk0C9d440B9cyk0C9d440B9cy",
        "k0C9d440B9cyk0C9d440B9px80C905g0B9px80C9d440B9cyk0C9d440B9cyk0C9d440B9cyk0C8a840Bafuk0",
        "C8a840Bast80C7x9g0Bast80C7x9g0Bast80C8a840Bafuk0C8a840Bafuk0C8a840Bast80C7x9g0Bast80C7",
        "x9g0Bast80C8a840Bafuk0C8a840Bafuk0C8a840Bafuk0C8a840Bast80C7x9g0Bast80C7x9g0Bast80C8a8",
        "40Bafuk0C8a840Bafuk0C8a840Bast80C7x9g0Bast80C7x9g0Bast80C6udg0Bc8nw0C6hes0Bc8nw0C6hes0",
        "Bc8nw0C6udg0Bc8nw0C6hes0Bc8nw0C6hes0Bc8nw0C6hes0Bc8nw0C6hes0Bc8nw0C6hes0Bc8nw0C6udg0Bc",
        "8nw0C6hes0Bc8nw0C6hes0Bc8nw0C6hes0Bc8nw0C6hes0Bc8nw0C6udg0Bc8nw0C6hes0Bc8nw0C6hes0Bc8n",
        "w0C6hes0Bc8nw0C6hes0Bc8nw0C6hes0Bc8nw0C6udg0Bc8nw0C6hes0Bc8nw0C6hes0Bc8nw0C6hes0Bc8nw0",
        "C6hes0Bc8nw0C6udg0Bc8nw0C6hes0Bc8nw0C6hes0Bc8nw0C6hes0Bc8nw0C6hes0Bc8nw0C6hes0Bc8nw0"]⟩,
    ⟨"America/Maceio", [⟨-143, false⟩, ⟨-180, false⟩, ⟨-120, true⟩],
      ["B6aefloC99kaxwB9a9c0C9io40B99980C8p65g0B6zuo0Cbs2o0B67zw0Ccjxg0B69uk0Ccjxg0B4ml80C5mf4",
        "40B49mk0Chaas0B316k0Ccls40B4ml80Ccls40B66580Ccls40B67zw0C981s40B6u7w0Cbiw40B5rbw0Cd0lg",
        "0B5ed80Ccyqs0B5ed80Cdbpg0B64ak0C2yl440B64ak0C1wf1g0B7k580Cbiw40Bpuk0Cid6s0B6h980Biqwe3",
        "j"]⟩,
    ⟨"America/Managua", [⟨-345, false⟩, ⟨-360, false⟩, ⟨-300, false⟩, ⟨-300, true⟩],
      ["A0Bgz2uawCka1i0oBxqqk0D24p6s0B53980Ddmtg0B53980C60itw0Bdq240C53es0B235h80D4beis0B8zzw0",
        "Dat4c0B7x140"]⟩,
    ⟨"America/Manaus", [⟨-240, false⟩, ⟨-180, true⟩],
      ["A6aek3oB99k97wA9a9c0B9io40A99980B8p65g0A6zuo0Bbs2o0A67zw0Bcjxg0A69uk0Bcjxg0A4ml80B5mf4",
        "40A49mk0Bhaas0A316k0Bcls40A4ml80Bcls40A66580Bcls40A67zw0B981s40A6u7w0Bbiw40A5rbw0Bd0lg",
        "0A5ed80B2yy2s0A6h980Amx1vbj"]⟩,
    ⟨"America/Martinique", [⟨-244, false⟩, ⟨-240, false⟩, ⟨-180, true⟩],
      ["A0B4w75msCzz5x4sB8zzw0"]⟩,
    ⟨"America/Matamoros", [⟨-390, false⟩, ⟨-360, false⟩, ⟨-300, true⟩],
      ["BagptnkCykt480Bast80C3vppg0Bafuk0C8a840Bafuk0C8a840Bafuk0C8a840Bast80C7x9g0Bast80C9q2s",
        "0B7k580C9q2s0Bafuk0C8a840Bafuk0C8a840Bast80C7x9g0Bast80C7x9g0Bast80C7x9g0Bast80C8a840B",
        "afuk0C8a840Bafuk0C77c40Bc8nw0C6hes0Bc8nw0C6hes0Bc8nw0C6hes0Bc8nw0C6hes0Bc8nw0C6hes0Bc8",
        "nw0C6udg0Bc8nw0C6hes0Bc8nw0C6hes0Bc8nw0C6hes0Bc8nw0C6hes0Bc8nw0C6udg0Bc8nw0C6hes0Bc8nw",
        "0C6hes0Bc8nw0C6hes0Bc8nw0C6hes0Bc8nw0C6hes0Bc8nw0C6udg0Bc8nw0C6hes0Bc8nw0C6hes0Bc8nw0C",
        "6hes0Bc8nw0C6hes0Bc8nw0C6udg0Bc8nw0C6hes0Bc8nw0C6hes0Bc8nw0C6hes0Bc8nw0C6hes0Bc8nw0C6h",
        "es0Bc8nw0"]⟩,
    ⟨"America/Mazatlan", [⟨-426, false⟩, ⟨-420, false⟩, ⟨-360, false⟩, ⟨-360, true⟩],
      ["BagpwfkC2u5s00B1si580D8jhg0B7x3w0C9eys0B591h80Ds5qoc0Bafuk0D8a840Bafuk0D8a840Bafuk0D8a",
        "840Bast80D7x9g0Bast80D9q2s0B7k580D9q2s0Bafuk0D8a840Bafuk0D8a840Bast80D7x9g0Bast80D7x9g",
        "0Bast80D7x9g0Bast80D8a840Bafuk0D8a840Bafuk0D8a840Bast80D7x9g0Bast80D7x9g0Bast80D8a840B",
        "afuk0D8a840Bafuk0D8a840Bafuk0D8a840Bast80D7x9g0Bast80D7x9g0Bast80D8a840Bafuk0D8a840Baf",
        "uk0D8a840Bast80D7x9g0Bast80"]⟩,
    ⟨"America/Menominee", [⟨-350, false⟩, ⟨-360, false⟩, ⟨-300, true⟩, ⟨-300, false⟩],
      ["B0C8i58jkBast80C7x9g0Bast80Cbmtus0C1tz8c0B2dsw0Casys0B7x3w0Ca7n9g0B9px80D1at9g0C2396k0",
        "B9d1c0C3lpg0Bf4d80C64g40Bclmk0C9d440B9px80C905g0B9px80C9d440B9cyk0C9d440B9cyk0C9d440B9",
        "cyk0C9d440B9cyk0C9d440B9px80C905g0B9px80C9d440B9cyk0C9d440B9cyk0C9d440B9cyk0C8a840Bafu",
        "k0C8a840Bast80C7x9g0Bast80C7x9g0Bast80C8a840Bafuk0C8a840Bafuk0C8a840Bast80C7x9g0Bast80",
        "C7x9g0Bast80C8a840Bafuk0C8a840Bafuk0C8a840Bafuk0C8a840Bast80C7x9g0Bast80C7x9g0Bast80C8",
        "a840Bafuk0C8a840Bafuk0C8a840Bast80C7x9g0Bast80C7x9g0Bast80C6udg0Bc8nw0C6hes0Bc8nw0C6he",
        "s0Bc8nw0C6udg0Bc8nw0C6hes0Bc8nw0C6hes0Bc8nw0C6hes0Bc8nw0C6hes0Bc8nw0C6hes0Bc8nw0C6udg0",
        "Bc8nw0C6hes0Bc8nw0C6hes0Bc8nw0C6hes0Bc8nw0C6hes0Bc8nw0C6udg0Bc8nw0C6hes0Bc8nw0C6hes0Bc",
        "8nw0C6hes0Bc8nw0C6hes0Bc8nw0C6hes0Bc8nw0C6udg0Bc8nw0C6hes0Bc8nw0C6hes0Bc8nw0C6hes0Bc8n",
        "w0C6hes0Bc8nw0C6udg0Bc8nw0C6hes0Bc8nw0C6hes0Bc8nw0C6hes0Bc8nw0C6hes0Bc8nw0C6hes0Bc8nw0"]⟩,
    ⟨"America/Merida", [⟨-358, false⟩, ⟨-360, false⟩, ⟨-300, false⟩, ⟨-300, true⟩],
      ["BagptnkCvb0dk0Bfzuk0D70bes0Bafuk0D8a840Bafuk0D8a840Bafuk0D8a840Bast80D7x9g0Bast80D9q2s",
        "0B7k580D9q2s0Bafuk0D8a840Bafuk0D8a840Bast80D7x9g0Bast80D7x9g0Bast80D7x9g0Bast80D8a840B",
        "afuk0D8a840Bafuk0D8a840Bast80D7x9g0Bast80D7x9g0Bast80D8a840Bafuk0D8a840Bafuk0D8a840Baf",
        "uk0D8a840Bast80D7x9g0Bast80D7x9g0Bast80D8a840Bafuk0D8a840Bafuk0D8a840Bast80D7x9g0Bast8",
        "0"]⟩,
    ⟨"America/Metlakatla",
      [⟨914, false⟩, ⟨-480, false⟩, ⟨-420, true⟩, ⟨-540, false⟩, ⟨-480, true⟩],
      ["B0Ckyi4rkC1tz2s0B2dyg0Ccawis0B9cyk0C9d440B9cyk0C9d440B9px80C9d440B9cyk0C9d440B9cyk0C3l",
        "pg0Bf4d80C64g40Bclmk0C9d440B9px80C905g0B9px80C9d440B9cyk0C9d440B9cyk0C9d440B9cyk0C9d44",
        "0B9cyk0C9d440B9px80C905g0B9px80Dgpc840E6udg0Dc8nw0E6hes0Dc8nw0E6hes0Bc8nw0D3ylc0E2itg0",
        "Dc8nw0E6hes0Dc8nw0E6udg0Dc8nw0E6hes0Dc8nw0E6hes0Dc8nw0E6hes0Dc8nw0E6hes0Dc8nw0E6hes0Dc",
        "8nw0E6udg0Dc8nw0E6hes0Dc8nw0E6hes0Dc8nw0E6hes0Dc8nw0E6hes0Dc8nw0E6udg0Dc8nw0E6hes0Dc8n",
        "w0E6hes0Dc8nw0E6hes0Dc8nw0E6hes0Dc8nw0E6hes0Dc8nw0"]⟩,
    ⟨"America/Mexico_City",
      [⟨-397, false⟩, ⟨-420, false⟩, ⟨-360, false⟩, ⟨-360, true⟩, ⟨-300, true⟩],
      ["BagpwfkC2u5s00B1si580D8jhg0B7x3w0C9eys0E3knek0C776k0Erf440C5t6k0E1evk40C71mk0E30p1g0C8",
        "n180Enufxo0Cafuk0E8a840Cafuk0E8a840Cafuk0E8a840Cast80E7x9g0Cast80E9q2s0C7k580E9q2s0Caf",
        "uk0E8a840Cafuk0E8a840Cast80E7x9g0Cast80E7x9g0Cast80E7x9g0Cast80E8a840Cafuk0E8a840Cafuk",
        "0E8a840Cast80E7x9g0Cast80E7x9g0Cast80E8a840Cafuk0E8a840Cafuk0E8a840Cafuk0E8a840Cast80E",
        "7x9g0Cast80E7x9g0Cast80E8a840Cafuk0E8a840Cafuk0E8a840Cast80E7x9g0Cast80"]⟩,
    ⟨"America/Miquelon", [⟨-225, false⟩, ⟨-240, false⟩, ⟨-180, false⟩, ⟨-120, true⟩],
      ["B4yigq0Czy4wpkD3m59g0Cafuk0D8a840Cast80D7x9g0Cast80D7x9g0Cast80D8a840Cafuk0D8a840Cafuk",
        "0D8a840Cast80D7x9g0Cast80D7x9g0Cast80D8a840Cafuk0D8a840Cafuk0D8a840Cafuk0D8a840Cast80D",
        "7x9g0Cast80D7x9g0Cast80D8a840Cafuk0D8a840Cafuk0D8a840Cast80D7x9g0Cast80D7x9g0Cast80D6u",
        "dg0Cc8nw0D6hes0Cc8nw0D6hes0Cc8nw0D6udg0Cc8nw0D6hes0Cc8nw0D6hes0Cc8nw0D6hes0Cc8nw0D6hes",
        "0Cc8nw0D6hes0Cc8nw0D6udg0Cc8nw0D6hes0Cc8nw0D6hes0Cc8nw0D6hes0Cc8nw0D6hes0Cc8nw0D6udg0C",
        "c8nw0D6hes0Cc8nw0D6hes0Cc8nw0D6hes0Cc8nw0D6hes0Cc8nw0D6hes0Cc8nw0D6udg0Cc8nw0D6hes0Cc8",
        "nw0D6hes0Cc8nw0D6hes0Cc8nw0D6hes0Cc8nw0D6udg0Cc8nw0D6hes0Cc8nw0D6hes0Cc8nw0D6hes0Cc8nw",
        "0D6hes0Cc8nw0D6hes0Cc8nw0C428jj"]⟩,
    ⟨"America/Moncton", [⟨-259, false⟩, ⟨-300, false⟩, ⟨-240, false⟩, ⟨-180, true⟩],
      ["B0C9fivkD89fhg0Ca2vw0D7mqqo0C4ofw0De1ms0C4ofw0De1ms0C4ofw0De1ms0C4ofw0De1ms0C4ofw0De1m",
        "s0C4ofw0Ddmtg0C64ak0Dcao40C6fek0Dbkqs0C7iak0D6y5k0D1tzdw0C2dnc0Dasys0C7x3w0Dasys0C7x3w",
        "0Dasys0C7x3w0Dasys0C7x3w0Db5xg0C7k580Db5xg0C7x3w0Dasys0C7x3w0Dasys0C7x3w0Dasys0C7x3w0D",
        "asys0C7x3w0Db5xg0C7x3w0Dasys0C9cyk0D9d440C9cyk0D9d440C9cyk0D9d440C9px80D9d440C9cyk0D9d",
        "440C9cyk0D9d440C9cyk0D9d440C9cyk0D9d440C9px80D905g0C9px80D9d440C9cyk0D9d440C9cyk0D9d44",
        "0C9cyk0D9d440C9cyk0D9d440C9px80D9d440C9cyk0Ds36s0C9cyk0D9d440C9cyk0D9d440C9px80D905g0C",
        "9px80D9d440C9cyk0D9d440C9cyk0D9d440C9cyk0D9d440C9cyk0D9d440C9px80D905g0C9px80D9d440C9c",
        "yk0D9d440C9cyk0D9d440C9cyk0D8a840Cafuk0D8a840Cast80D7x9g0Cast80D7x9g0Cast80D8a840Cafuk",
        "0D8a840Cafuk0D8a2loCast80D7x9g0Cast80D7x9g0Cast80D8a840Cafuk0D8a840Cafuk0D8a840Cafuk0D",
        "8a840Cast80D7x9g0Cast80D7x9g0Cast80D8a840Cafuk0D8a840Cafuk0D8a840Cast80D7x9g0Cast80D7x",
        "9g0Cast80D6uiycCc8nw0D6hes0Cc8nw0D6hes0Cc8nw0D6udg0Cc8nw0D6hes0Cc8nw0D6hes0Cc8nw0D6hes",
        "0Cc8nw0D6hes0Cc8nw0D6hes0Cc8nw0D6udg0Cc8nw0D6hes0Cc8nw0D6hes0Cc8nw0D6hes0Cc8nw0D6hes0C",
        "c8nw0D6udg0Cc8nw0D6hes0Cc8nw0D6hes0Cc8nw0D6hes0Cc8nw0D6hes0Cc8nw0D6hes0Cc8nw0D6udg0Cc8",
        "nw0D6hes0Cc8nw0D6hes0Cc8nw0D6hes0Cc8nw0D6hes0Cc8nw0D6udg0Cc8nw0D6hes0Cc8nw0D6hes0Cc8nw",
        "0D6hes0Cc8nw0D6hes0Cc8nw0D6hes0Cc8nw0"]⟩,
    ⟨"America/Monterrey",
      [⟨-401, false⟩, ⟨-420, false⟩, ⟨-360, false⟩, ⟨-360, true⟩, ⟨-300, true⟩],
      ["BagptnkC2u5us0B1si580D8jhg0B7x3w0C9eys0Et89k40Cast80E3vppg0Cafuk0E8a840Cafuk0E8a840Caf",
        "uk0E8a840Cast80E7x9g0Cast80E9q2s0C7k580E9q2s0Cafuk0E8a840Cafuk0E8a840Cast80E7x9g0Cast8",
        "0E7x9g0Cast80E7x9g0Cast80E8a840Cafuk0E8a840Cafuk0E8a840Cast80E7x9g0Cast80E7x9g0Cast80E",
        "8a840Cafuk0E8a840Cafuk0E8a840Cafuk0E8a840Cast80E7x9g0Cast80E7x9g0Cast80E8a840Cafuk0E8a",
        "840Cafuk0E8a840Cast80E7x9g0Cast80"]⟩,
    ⟨"America/Montevideo",
      [⟨-225, false⟩, ⟨-240, false⟩, ⟨-180, true⟩, ⟨-210, false⟩, ⟨-150, true⟩, ⟨-180, false⟩,
        ⟨-120, true⟩, ⟨-90, true⟩],
      ["A3dxfebB67elc0C1s74p9D9et80C9exe0D9czy0C9exe0D9czy0C3ydyq0D7x5a0Casxe0D7x5a0Casxe0D7x5",
        "a0Casxe0D7x5a0Cb5w20D7k6m0Cb5w20D7k6m0C9q1e0D9czy0Casxe0D7x5a0C6do20Eppvy0F4mmm0E8g9qq",
        "0F901a0G38pe0F2inw0G2nf9g0F8zzw0E1e3s40F9o3y0Gq8he0F2kik0Gyxhg0F4bh80Hs36s0E2vl60F905g",
        "0G5rg20F51ek0Gweqs0F3yik0Ge1ms0F4ofw0Gerk40F3yik0G2vs40Fgk7w0G41iys0F3wnw0Gerk40F4bh80",
        "Gc8tg0F64ak0Gc8tg0F6u7w0Gc8tg0F6h980Gbvus0F6u7w0G614qs0F9q2s0Ga31g0F7x3w0Gag040F8a2k0G",
        "asys0F7x3w0Gasys0F7x3w0Gasys0F8a2k0Gag040F8a2k0Gag040F8a2k0Gasys0F7x3w0Gasys0F7x3w0Gas",
        "ys0F7x3w0Fbxogjj"]⟩,
    ⟨"America/Montserrat", [⟨-249, false⟩, ⟨-240, false⟩],
      ["B4zc4k0"]⟩,
    ⟨"America/Nassau", [⟨-309, false⟩, ⟨-300, false⟩, ⟨-240, true⟩],
      ["B5bxwneCfqrow6B1e5h80C1lhg0Ca0nc0B3awk0C9o00c0B9cyk0C9d440B9px80C905g0B9px80C9d440B9cy",
        "k0C9d440B9cyk0C9d440B9cyk0C9d440B9cyk0C9d440B9px80C9d440B9cyk0C9d440B9cyk0C9d440B9cyk0",
        "C9d440B9cyk0C9d440B9px80C905g0B9px80C9d440B9cyk0C9d440B9cyk0C9d440B9cyk0C9d440B9cyk0C9",
        "d440B9px80C905g0B9px80C9d440B9cyk0C9d440B9cyk0C9d440B9cyk0C8a840Bafuk0C8a840Bast80C7x9",
        "g0Bast80C7x9g0Bast80C8a840Bafuk0C8a840Bafuk0C8a840Bast80C7x9g0Bast80C7x9g0Bast80C8a840",
        "Bafuk0C8a840Bafuk0C8a840Bafuk0C8a840Bast80C7x9g0Bast80C7x9g0Bast80C8a840Bafuk0C8a840Ba",
        "fuk0C8a840Bast80C7x9g0Bast80C7x9g0Bast80C6udg0Bc8nw0C6hes0Bc8nw0C6hes0Bc8nw0C6udg0Bc8n",
        "w0C6hes0Bc8nw0C6hes0Bc8nw0C6hes0Bc8nw0C6hes0Bc8nw0C6hes0Bc8nw0C6udg0Bc8nw0C6hes0Bc8nw0",
        "C6hes0Bc8nw0C6hes0Bc8nw0C6hes0Bc8nw0C6udg0Bc8nw0C6hes0Bc8nw0C6hes0Bc8nw0C6hes0Bc8nw0C6",
        "hes0Bc8nw0C6hes0Bc8nw0C6udg0Bc8nw0C6hes0Bc8nw0C6hes0Bc8nw0C6hes0Bc8nw0C6hes0Bc8nw0C6ud",
        "g0Bc8nw0C6hes0Bc8nw0C6hes0Bc8nw0C6hes0Bc8nw0C6hes0Bc8nw0C6hes0Bc8nw0"]⟩,
    ⟨"America/New_York", [⟨-296, false⟩, ⟨-300, false⟩, ⟨-240, true⟩],
      ["B0C8i55rkBast80C7x9g0Bast80C7x9g0Bb5rw0C905g0B7x3w0Cb5xg0B7k580Cb5xg0B7x3w0Casys0B7x3w",
        "0Casys0B7x3w0Casys0B7x3w0Casys0B7x3w0Cb5xg0B7x3w0Casys0B7x3w0Casys0B7x3w0Casys0B7x3w0C",
        "asys0B7x3w0Cb5xg0B7k580Cb5xg0B7x3w0Casys0B7x3w0Casys0B7x3w0Casys0B7x3w0Casys0B7x3w0Cb5",
        "xg0B7k580Cb5xg0B7x3w0Casys0B7x3w0C6w840C1tzb40B2dq40Casys0B7x3w0Casys0B7x3w0Casys0B7x3",
        "w0Casys0B7x3w0Cb5xg0B7k580Cb5xg0B7x3w0Casys0B7x3w0Casys0B7x3w0Casys0B7x3w0Casys0B9px80",
        "C9d440B9cyk0C9d440B9cyk0C9d440B9cyk0C9d440B9cyk0C9d440B9px80C9d440B9cyk0C9d440B9cyk0C9",
        "d440B9cyk0C9d440B9cyk0C9d440B9px80C905g0B9px80C9d440B9cyk0C9d440B9cyk0C9d440B9cyk0C9d4",
        "40B9cyk0C9d440B9px80C9d440B9cyk0C9d440B9cyk0C3lpg0Bf4d80C64g40Bclmk0C9d440B9px80C905g0",
        "B9px80C9d440B9cyk0C9d440B9cyk0C9d440B9cyk0C9d440B9cyk0C9d440B9px80C905g0B9px80C9d440B9",
        "cyk0C9d440B9cyk0C9d440B9cyk0C8a840Bafuk0C8a840Bast80C7x9g0Bast80C7x9g0Bast80C8a840Bafu",
        "k0C8a840Bafuk0C8a840Bast80C7x9g0Bast80C7x9g0Bast80C8a840Bafuk0C8a840Bafuk0C8a840Bafuk0",
        "C8a840Bast80C7x9g0Bast80C7x9g0Bast80C8a840Bafuk0C8a840Bafuk0C8a840Bast80C7x9g0Bast80C7",
        "x9g0Bast80C6udg0Bc8nw0C6hes0Bc8nw0C6hes0Bc8nw0C6udg0Bc8nw0C6hes0Bc8nw0C6hes0Bc8nw0C6he",
        "s0Bc8nw0C6hes0Bc8nw0C6hes0Bc8nw0C6udg0Bc8nw0C6hes0Bc8nw0C6hes0Bc8nw0C6hes0Bc8nw0C6hes0",
        "Bc8nw0C6udg0Bc8nw0C6hes0Bc8nw0C6hes0Bc8nw0C6hes0Bc8nw0C6hes0Bc8nw0C6hes0Bc8nw0C6udg0Bc",
        "8nw0C6hes0Bc8nw0C6hes0Bc8nw0C6hes0Bc8nw0C6hes0Bc8nw0C6udg0Bc8nw0C6hes0Bc8nw0C6hes0Bc8n",
        "w0C6hes0Bc8nw0C6hes0Bc8nw0C6hes0Bc8nw0"]⟩,
    ⟨"America/Nome", [⟨778, false⟩, ⟨-660, false⟩, ⟨-600, true⟩, ⟨-540, false⟩, ⟨-480, true⟩],
      ["B0Ckyid3kC1tyug0B2e6s0Bb7yik0C12y080B9cyk0C9d440B9cyk0C9d440B9px80C9d440B9cyk0C9d440B9",
        "cyk0C3lpg0Bf4d80C64g40Bclmk0C9d440B9px80C905g0B9px80C9d440B9cyk0C9d440B9cyk0C9d440B9cy",
        "k0C9d440B9cyk0C9d440B9px80C905g0D9px80D1l6c0E7rs80D9cyk0E9d440D9cyk0E9d440D9cyk0E8a840",
        "Dafuk0E8a840Dast80E7x9g0Dast80E7x9g0Dast80E8a840Dafuk0E8a840Dafuk0E8a840Dast80E7x9g0Da",
        "st80E7x9g0Dast80E8a840Dafuk0E8a840Dafuk0E8a840Dafuk0E8a840Dast80E7x9g0Dast80E7x9g0Dast",
        "80E8a840Dafuk0E8a840Dafuk0E8a840Dast80E7x9g0Dast80E7x9g0Dast80E6udg0Dc8nw0E6hes0Dc8nw0",
        "E6hes0Dc8nw0E6udg0Dc8nw0E6hes0Dc8nw0E6hes0Dc8nw0E6hes0Dc8nw0E6hes0Dc8nw0E6hes0Dc8nw0E6",
        "udg0Dc8nw0E6hes0Dc8nw0E6hes0Dc8nw0E6hes0Dc8nw0E6hes0Dc8nw0E6udg0Dc8nw0E6hes0Dc8nw0E6he",
        "s0Dc8nw0E6hes0Dc8nw0E6hes0Dc8nw0E6hes0Dc8nw0E6udg0Dc8nw0E6hes0Dc8nw0E6hes0Dc8nw0E6hes0",
        "Dc8nw0E6hes0Dc8nw0E6udg0Dc8nw0E6hes0Dc8nw0E6hes0Dc8nw0E6hes0Dc8nw0E6hes0Dc8nw0E6hes0Dc",
        "8nw0"]⟩,
    ⟨"America/Noronha", [⟨-130, false⟩, ⟨-120, false⟩, ⟨-60, true⟩],
      ["B6aeezoC99k8rwB9a9c0C9io40B99980C8p65g0B6zuo0Cbs2o0B67zw0Ccjxg0B69uk0Ccjxg0B4ml80C5mf4",
        "40B49mk0Chaas0B316k0Ccls40B4ml80Ccls40B66580Ccls40B67zw0C981s40B6u7w0Cbiw40B5rbw0Cd0lg",
        "0B5ed80Ccyqs0B5ed80Cdbpg0B64ak0C514g40B7k580Cbiw40Bcvw0Ciq5g0B6h980Biqwgvj"]⟩,
    ⟨"America/North_Dakota/Beulah",
      [⟨-407, false⟩, ⟨-420, false⟩, ⟨-360, true⟩, ⟨-360, false⟩, ⟨-300, true⟩],
      ["B0C8i5bbkBast80C7x9g0Bast80Cbmtus0C1tz5k0B2dvo0Cb9gdg0B9cyk0C9d440B9cyk0C9d440B9cyk0C9",
        "d440B9cyk0C9d440B9px80C9d440B9cyk0C9d440B9cyk0C3lpg0Bf4d80C64g40Bclmk0C9d440B9px80C905",
        "g0B9px80C9d440B9cyk0C9d440B9cyk0C9d440B9cyk0C9d440B9cyk0C9d440B9px80C905g0B9px80C9d440",
        "B9cyk0C9d440B9cyk0C9d440B9cyk0C8a840Bafuk0C8a840Bast80C7x9g0Bast80C7x9g0Bast80C8a840Ba",
        "fuk0C8a840Bafuk0C8a840Bast80C7x9g0Bast80C7x9g0Bast80C8a840Bafuk0C8a840Bafuk0C8a840Bafu",
        "k0C8a840Bast80C7x9g0Bast80C7x9g0Bast80C8a840Bafuk0C8a840Bafuk0C8a840Bast80C7x9g0Bast80",
        "C7x9g0Bast80C6udg0Bc8nw0C6hes0Bc8nw0C6hes0Bc8nw0C6udg0Dc8nw0E6hc00Dc8nw0E6hes0Dc8nw0E6",
        "hes0Dc8nw0E6hes0Dc8nw0E6hes0Dc8nw0E6udg0Dc8nw0E6hes0Dc8nw0E6hes0Dc8nw0E6hes0Dc8nw0E6he",
        "s0Dc8nw0E6udg0Dc8nw0E6hes0Dc8nw0E6hes0Dc8nw0E6hes0Dc8nw0E6hes0Dc8nw0E6hes0Dc8nw0E6udg0",
        "Dc8nw0E6hes0Dc8nw0E6hes0Dc8nw0E6hes0Dc8nw0E6hes0Dc8nw0E6udg0Dc8nw0E6hes0Dc8nw0E6hes0Dc",
        "8nw0E6hes0Dc8nw0E6hes0Dc8nw0E6hes0Dc8nw0"]⟩,
    ⟨"America/North_Dakota/Center",
      [⟨-405, false⟩, ⟨-420, false⟩, ⟨-360, true⟩, ⟨-360, false⟩, ⟨-300, true⟩],
      ["B0C8i5bbkBast80C7x9g0Bast80Cbmtus0C1tz5k0B2dvo0Cb9gdg0B9cyk0C9d440B9cyk0C9d440B9cyk0C9",
        "d440B9cyk0C9d440B9px80C9d440B9cyk0C9d440B9cyk0C3lpg0Bf4d80C64g40Bclmk0C9d440B9px80C905",
        "g0B9px80C9d440B9cyk0C9d440B9cyk0C9d440B9cyk0C9d440B9cyk0C9d440B9px80C905g0B9px80C9d440",
        "B9cyk0C9d440B9cyk0C9d440B9cyk0C8a840Bafuk0C8a840Bast80C7x9g0Bast80C7x9g0Bast80C8a840Ba",
        "fuk0C8a840Dafuk0E8a5c0Dast80E7x9g0Dast80E7x9g0Dast80E8a840Dafuk0E8a840Dafuk0E8a840Dafu",
        "k0E8a840Dast80E7x9g0Dast80E7x9g0Dast80E8a840Dafuk0E8a840Dafuk0E8a840Dast80E7x9g0Dast80",
        "E7x9g0Dast80E6udg0Dc8nw0E6hes0Dc8nw0E6hes0Dc8nw0E6udg0Dc8nw0E6hes0Dc8nw0E6hes0Dc8nw0E6",
        "hes0Dc8nw0E6hes0Dc8nw0E6hes0Dc8nw0E6udg0Dc8nw0E6hes0Dc8nw0E6hes0Dc8nw0E6hes0Dc8nw0E6he",
        "s0Dc8nw0E6udg0Dc8nw0E6hes0Dc8nw0E6hes0Dc8nw0E6hes0Dc8nw0E6hes0Dc8nw0E6hes0Dc8nw0E6udg0",
        "Dc8nw0E6hes0Dc8nw0E6hes0Dc8nw0E6hes0Dc8nw0E6hes0Dc8nw0E6udg0Dc8nw0E6hes0Dc8nw0E6hes0Dc",
        "8nw0E6hes0Dc8nw0E6hes0Dc8nw0E6hes0Dc8nw0"]⟩,
    ⟨"America/North_Dakota/New_Salem",
      [⟨-406, false⟩, ⟨-420, false⟩, ⟨-360, true⟩, ⟨-360, false⟩, ⟨-300, true⟩],
      ["B0C8i5bbkBast80C7x9g0Bast80Cbmtus0C1tz5k0B2dvo0Cb9gdg0B9cyk0C9d440B9cyk0C9d440B9cyk0C9",
        "d440B9cyk0C9d440B9px80C9d440B9cyk0C9d440B9cyk0C3lpg0Bf4d80C64g40Bclmk0C9d440B9px80C905",
        "g0B9px80C9d440B9cyk0C9d440B9cyk0C9d440B9cyk0C9d440B9cyk0C9d440B9px80C905g0B9px80C9d440",
        "B9cyk0C9d440B9cyk0C9d440B9cyk0C8a840Bafuk0C8a840Bast80C7x9g0Bast80C7x9g0Bast80C8a840Ba",
        "fuk0C8a840Bafuk0C8a840Bast80C7x9g0Bast80C7x9g0Bast80C8a840Bafuk0C8a840Bafuk0C8a840Bafu",
        "k0C8a840Bast80C7x9g0Bast80C7x9g0Bast80C8a840Bafuk0C8a840Dafuk0E8a5c0Dast80E7x9g0Dast80",
        "E7x9g0Dast80E6udg0Dc8nw0E6hes0Dc8nw0E6hes0Dc8nw0E6udg0Dc8nw0E6hes0Dc8nw0E6hes0Dc8nw0E6",
        "hes0Dc8nw0E6hes0Dc8nw0E6hes0Dc8nw0E6udg0Dc8nw0E6hes0Dc8nw0E6hes0Dc8nw0E6hes0Dc8nw0E6he",
        "s0Dc8nw0E6udg0Dc8nw0E6hes0Dc8nw0E6hes0Dc8nw0E6hes0Dc8nw0E6hes0Dc8nw0E6hes0Dc8nw0E6udg0",
        "Dc8nw0E6hes0Dc8nw0E6hes0Dc8nw0E6hes0Dc8nw0E6hes0Dc8nw0E6udg0Dc8nw0E6hes0Dc8nw0E6hes0Dc",
        "8nw0E6hes0Dc8nw0E6hes0Dc8nw0E6hes0Dc8nw0"]⟩,
    ⟨"America/Nuuk", [⟨-207, false⟩, ⟨-180, false⟩, ⟨-120, true⟩, ⟨-120, false⟩, ⟨-60, true⟩],
      ["B7mpekgCx8nqz4B8zrk0C9d1c0B9d1c0C9d1c0B9d1c0C9d1c0B9d1c0C9d1c0B9q000C9d1c0B9d1c0C9d1c0",
        "B9d1c0C9d1c0B9d1c0C9d1c0B9d1c0C9d1c0B9d1c0C9d1c0B9q000C9d1c0B9d1c0C9d1c0B9d1c0C9d1c0B9",
        "d1c0C9d1c0B9d1c0C9d1c0B9d1c0C9q000Basw00C7x6o0Basw00C7x6o0Basw00C7x6o0Bb5uo0C7k800Bb5u",
        "o0C7k800Bb5uo0C7x6o0Basw00C7x6o0Basw00C7x6o0Bb5uo0C7k800Bb5uo0C7k800Bb5uo0C7k800Bb5uo0",
        "C7x6o0Basw00C7x6o0Basw00C7x6o0Bb5uo0C7k800Bb5uo0C7k800Bb5uo0C7x6o0Basw00C7x6o0Basw00C7",
        "x6o0Basw00C7x6o0Bb5uo0C7k800Bb5uo0C7k800Bb5uo0C7x6o0Basw00C7x6o0Basw00C7x6o0Bb5uo0C7k8",
        "00Bb5uo0D7k800Ej31c0Dasw00E7x6o0Dasw00E7x6o0Dasw00E7x6o0Db5uo0E7k800Db5uo0E7k800Db5uo0",
        "E7x6o0Dasw00E7x6o0Dasw00E7x6o0Db5uo0E7k800Db5uo0E7k800Db5uo0E7k800Db5uo0E7x6o0Dasw00E7",
        "x6o0Dasw00D4ffjj"]⟩,
    ⟨"America/Ojinaga",
      [⟨-418, false⟩, ⟨-420, false⟩, ⟨-360, false⟩, ⟨-360, true⟩, ⟨-300, true⟩],
      ["BagpwfkC2u5s00B1si580D8jhg0B7x3w0C9eys0Exes2s0Cafuk0E8a840Cafuk0D8aaw0Bafuk0D8a840Bast",
        "80D7x9g0Bast80D9q2s0B7k580D9q2s0Bafuk0D8a840Bafuk0D8a840Bast80D7x9g0Bast80D7x9g0Bast80",
        "D7x9g0Bast80D8a840Bafuk0D8a840Bafuk0D77c40Bc8nw0D6hes0Bc8nw0D6hes0Bc8nw0D6hes0Bc8nw0D6",
        "hes0Bc8nw0D6hes0Bc8nw0D6udg0Bc8nw0D6hes0Bc8nw0D6hes0Bc8nw0D6hes0Bc8nw0D6hes0Bc8nw0D6ud",
        "g0Bc8nw0D6hes0Cbvp80E6uao0Cc8nw0E6hes0Cc8nw0E6hes0Cc8nw0E6hes0Cc8nw0E6udg0Cc8nw0E6hes0",
        "Cc8nw0E6hes0Cc8nw0E6hes0Cc8nw0E6hes0Cc8nw0E6udg0Cc8nw0E6hes0Cc8nw0E6hes0Cc8nw0E6hes0Cc",
        "8nw0E6hes0Cc8nw0E6hes0Cc8nw0"]⟩,
    ⟨"America/Panama", [⟨-318, false⟩, ⟨-320, false⟩, ⟨-300, false⟩],
      ["B0C3bet48"]⟩,
    ⟨"America/Paramaribo", [⟨-221, false⟩, ⟨-210, false⟩, ⟨-180, false⟩],
      ["A4q0wjcAcixc0cB5lydbkCkcrm6cCrtftxj"]⟩,
    ⟨"America/Phoenix", [⟨-448, false⟩, ⟨-420, false⟩, ⟨-360, true⟩],
      ["B0C8i5bbkBast80C7x9g0Bast80Cbmtus0BzjedoC4olg0B9et80Cbs6lmcB9cyk0"]⟩,
    ⟨"America/Port-au-Prince", [⟨-289, false⟩, ⟨-300, false⟩, ⟨-240, true⟩],
      ["A0B7vzrp8Cylcf6cB8zzw0C9d440B9cyk0C9d440B9cyk0C9d440B9cyk0C9d440B9cyk0C8aaw0Basw00C7x6",
        "o0Basw00C7x6o0Basw00C8a5c0Bafxc0C8a5c0Bafxc0C8a5c0Basw00C7x6o0Basw00C7x6o0Basw00C8a5c0",
        "Bafxc0C8a5c0Bafxc0C3vpjw0Bast80C7x9g0Bast80C2stv00Bc8nw0C6hes0Bc8nw0C6hes0Bc8nw0C6hes0",
        "Bc8nw0Cpkg40Bc8nw0C6hes0Bc8nw0C6hes0Bc8nw0C6hes0Bc8nw0C6udg0Bc8nw0C6hes0Bc8nw0C6hes0Bc",
        "8nw0C6hes0Bc8nw0C6hes0Bc8nw0C6hes0Bc8nw0C6udg0Bc8nw0C6hes0Bc8nw0C6hes0Bc8nw0C6hes0Bc8n",
        "w0C6hes0Bc8nw0C6udg0Bc8nw0C6hes0Bc8nw0C6hes0Bc8nw0C6hes0Bc8nw0C6hes0Bc8nw0C6hes0Bc8nw0"]⟩,
    ⟨"America/Port_of_Spain", [⟨-246, false⟩, ⟨-240, false⟩],
      ["B5bxtpo"]⟩,
    ⟨"America/Porto_Velho", [⟨-256, false⟩, ⟨-240, false⟩, ⟨-180, true⟩],
      ["B6aektkC99k8i0B9a9c0C9io40B99980C8p65g0B6zuo0Cbs2o0B67zw0Ccjxg0B69uk0Ccjxg0B4ml80C5mf4",
        "40B49mk0Chaas0B316k0Ccls40B4ml80Ccls40B66580Ccls40B67zw0C981s40B6u7w0Cbiw40B5rbw0Cd0lg",
        "0B5ed80Bq2h7bj"]⟩,
    ⟨"America/Puerto_Rico", [⟨-264, false⟩, ⟨-240, false⟩, ⟨-180, true⟩],
      ["B0Cl2rdfkC1ppu40B2dnc0"]⟩,
    ⟨"America/Punta_Arenas",
      [⟨-284, false⟩, ⟨-283, false⟩, ⟨-300, false⟩, ⟨-240, false⟩, ⟨-240, true⟩, ⟨-180, true⟩,
        ⟨-180, false⟩],
      ["B0C47pq2tB3dlssrD157b79Bf4e0rE49hzb9Caye0rE7ves0Cawik0E7ves0Cawik0E7ves0Cawik0E7ves0Ca",
        "yd80D7ves0C534ik0D351g0E24lbw0Cb25c0D2mg00Fb73400D7k580Fc8tg0D6h980Fa31g0D7x3w0Fasys0D",
        "7x3w0Fb5xg0D7k580Fag040D8a2k0Fb5xg0D7k580Fb5xg0D7x3w0Fasys0D7x3w0Fasys0D7x3w0Fb5xg0D7k",
        "580Fb5xg0D7k580Fb5xg0D7x3w0Fasys0D7x3w0Fasys0D7x3w0Fasys0D7x3w0Fb5xg0D7k580Fb5xg0D7k58",
        "0Fb5xg0D9cyk0F9d440D7x3w0Fasys0D7x3w0Fb5xg0D7k580F9q2s0D8zzw0Fb5xg0D7x3w0Fasys0D7x3w0F",
        "asys0D7x3w0Fasys0D7x3w0Fb5xg0D7k580Fb5xg0D8n180Fa31g0D7x3w0Fa31g0D9px80F9q2s0D7x3w0Fb5",
        "xg0D7k580Fb5xg0D7k580Fb5xg0D7k580Fb5xg0D7x3w0Fasys0D7x3w0Fasys0D7x3w0Fb5xg0D7k580Fb5xg",
        "0D8n180Fa31g0D7x3w0Fasys0D8zzw0F9q2s0Dast80F5eis0Dcyl80F6hes0Dc8nw0F6udg0Dbvp80F6udg0D",
        "vonw0F4olg0G5rbw0Gb0wwnj"]⟩,
    ⟨"America/Rankin_Inlet", [⟨0, false⟩, ⟨-360, false⟩, ⟨-300, true⟩, ⟨-300, false⟩],
      ["BsqbfnkC7zza80B9cyk0C9d440B9cyk0C9d440B9cyk0C9d440B9cyk0C9d440B9px80C905g0B9px80C9d440",
        "B9cyk0C9d440B9cyk0C9d440B9cyk0C9d440B9cyk0C9d440B9px80C905g0B9px80C9d440B9cyk0C9d440B9",
        "cyk0C9d440B9cyk0C8a840Bafuk0C8a840Bast80C7x9g0Bast80C7x9g0Bast80C8a840Bafuk0C8a840Bafu",
        "k0C8a840Bast80C7x9g0Bast80C7x9g0Bast80C8a840Bafuk0C8a840Bafuk0C8a840Bafuk0C8a840Bast80",
        "C7x9g0Dast80C7x9g0Bast80C8a840Bafuk0C8a840Bafuk0C8a840Bast80C7x9g0Bast80C7x9g0Bast80C6",
        "udg0Bc8nw0C6hes0Bc8nw0C6hes0Bc8nw0C6udg0Bc8nw0C6hes0Bc8nw0C6hes0Bc8nw0C6hes0Bc8nw0C6he",
        "s0Bc8nw0C6hes0Bc8nw0C6udg0Bc8nw0C6hes0Bc8nw0C6hes0Bc8nw0C6hes0Bc8nw0C6hes0Bc8nw0C6udg0",
        "Bc8nw0C6hes0Bc8nw0C6hes0Bc8nw0C6hes0Bc8nw0C6hes0Bc8nw0C6hes0Bc8nw0C6udg0Bc8nw0C6hes0Bc",
        "8nw0C6hes0Bc8nw0C6hes0Bc8nw0C6hes0Bc8nw0C6udg0Bc8nw0C6hes0Bc8nw0C6hes0Bc8nw0C6hes0Bc8n",
        "w0C6hes0Bc8nw0C6hes0Bc8nw0"]⟩,
    ⟨"America/Recife", [⟨-140, false⟩, ⟨-180, false⟩, ⟨-120, true⟩],
      ["B6aefg8C99kb3cB9a9c0C9io40B99980C8p65g0B6zuo0Cbs2o0B67zw0Ccjxg0B69uk0Ccjxg0B4ml80C5mf4",
        "40B49mk0Chaas0B316k0Ccls40B4ml80Ccls40B66580Ccls40B67zw0C981s40B6u7w0Cbiw40B5rbw0Cd0lg",
        "0B5ed80Ccyqs0B5ed80Cdbpg0B64ak0C514g40B7k580Cbiw40Bcvw0Ciq5g0B6h980Biqwe3j"]⟩,
    ⟨"America/Regina", [⟨-419, false⟩, ⟨-420, false⟩, ⟨-360, true⟩, ⟨-360, false⟩],
      ["B1xtr18C6l1hmcBa2vw0C60enw0B7x3w0Casys0B7x3w0Casys0B7x3w0Cb5xg0B7k580Cb5xg0B7x3w0C1b68",
        "40B9cyk0C9d440B8zzw0C9q2s0B9cyk0C9q2s0B9cyk0C9d440B9cyk0C66gc0C1tz5k0B2dvo0Ca31g0B9cyk",
        "0Ca31g0B7x3w0Casys0B7x3w0Casys0B7x3w0Cb5xg0B7k580Cb5xg0B7x3w0Casys0B7x3w0Casys0B7x3w0C",
        "asys0B7x3w0Casys0B7x3w0Cb5xg0B7x3w0Casys0B7x3w0Ctj1g0B9cyk0D9d440"]⟩,
    ⟨"America/Resolute", [⟨0, false⟩, ⟨-360, false⟩, ⟨-300, true⟩, ⟨-300, false⟩],
      ["BnuurnkCcvfy80B9cyk0C9d440B9cyk0C9d440B9cyk0C9d440B9cyk0C9d440B9px80C905g0B9px80C9d440",
        "B9cyk0C9d440B9cyk0C9d440B9cyk0C9d440B9cyk0C9d440B9px80C905g0B9px80C9d440B9cyk0C9d440B9",
        "cyk0C9d440B9cyk0C8a840Bafuk0C8a840Bast80C7x9g0Bast80C7x9g0Bast80C8a840Bafuk0C8a840Bafu",
        "k0C8a840Bast80C7x9g0Bast80C7x9g0Bast80C8a840Bafuk0C8a840Bafuk0C8a840Bafuk0C8a840Bast80",
        "C7x9g0Dast80C7x9g0Bast80C8a840Bafuk0C8a840Bafuk0C8a840Bast80C7x9g0Bast80C7x9g0Dast80C6",
        "udg0Bc8nw0C6hes0Bc8nw0C6hes0Bc8nw0C6udg0Bc8nw0C6hes0Bc8nw0C6hes0Bc8nw0C6hes0Bc8nw0C6he",
        "s0Bc8nw0C6hes0Bc8nw0C6udg0Bc8nw0C6hes0Bc8nw0C6hes0Bc8nw0C6hes0Bc8nw0C6hes0Bc8nw0C6udg0",
        "Bc8nw0C6hes0Bc8nw0C6hes0Bc8nw0C6hes0Bc8nw0C6hes0Bc8nw0C6hes0Bc8nw0C6udg0Bc8nw0C6hes0Bc",
        "8nw0C6hes0Bc8nw0C6hes0Bc8nw0C6hes0Bc8nw0C6udg0Bc8nw0C6hes0Bc8nw0C6hes0Bc8nw0C6hes0Bc8n",
        "w0C6hes0Bc8nw0C6hes0Bc8nw0"]⟩,
    ⟨"America/Rio_Branco", [⟨-271, false⟩, ⟨-300, false⟩, ⟨-240, true⟩, ⟨-240, false⟩],
      ["B6aeljkC99kak0B9a9c0C9io40B99980C8p65g0B6zuo0Cbs2o0B67zw0Ccjxg0B69uk0Ccjxg0B4ml80C5mf4",
        "40B49mk0Chaas0B316k0Ccls40B4ml80Ccls40B66580Ccls40B67zw0C981s40B6u7w0Cbiw40B5rbw0Cd0lg",
        "0B5ed80Damves0B2t2t80Bcmiwjj"]⟩,
    ⟨"America/Santarem", [⟨-219, false⟩, ⟨-240, false⟩, ⟨-180, true⟩, ⟨-180, false⟩],
      ["B6aej48C99ka7cB9a9c0C9io40B99980C8p65g0B6zuo0Cbs2o0B67zw0Ccjxg0B69uk0Ccjxg0B4ml80C5mf4",
        "40B49mk0Chaas0B316k0Ccls40B4ml80Ccls40B66580Ccls40B67zw0C981s40B6u7w0Cbiw40B5rbw0Cd0lg",
        "0B5ed80Damves0Dfflsjj"]⟩,
    ⟨"America/Santiago",
      [⟨-283, false⟩, ⟨-300, false⟩, ⟨-240, false⟩, ⟨-240, true⟩, ⟨-180, true⟩],
      ["A0B47pq2tA3dlssrC157b79Af4e0rD49hzb9Baye0rD7ves0Bawik0D7ves0Bawik0D7ves0Bawik0D7ves0Ba",
        "yd80C7ves0B534ik0C351g0E229zw0D2b980Bb2840C2mg00Eb73400C7k580Ec8tg0C6h980Ea31g0C7x3w0E",
        "asys0C7x3w0Eb5xg0C7k580Eag040C8a2k0Eb5xg0C7k580Eb5xg0C7x3w0Easys0C7x3w0Easys0C7x3w0Eb5",
        "xg0C7k580Eb5xg0C7k580Eb5xg0C7x3w0Easys0C7x3w0Easys0C7x3w0Easys0C7x3w0Eb5xg0C7k580Eb5xg",
        "0C7k580Eb5xg0C9cyk0E9d440C7x3w0Easys0C7x3w0Eb5xg0C7k580E9q2s0C8zzw0Eb5xg0C7x3w0Easys0C",
        "7x3w0Easys0C7x3w0Easys0C7x3w0Eb5xg0C7k580Eb5xg0C8n180Ea31g0C7x3w0Ea31g0C9px80E9q2s0C7x",
        "3w0Eb5xg0C7k580Eb5xg0C7k580Eb5xg0C7k580Eb5xg0C7x3w0Easys0C7x3w0Easys0C7x3w0Eb5xg0C7k58",
        "0Eb5xg0C8n180Ea31g0C7x3w0Easys0C8zzw0E9q2s0Cast80E5eis0Ccyl80E6hes0Cc8nw0E6udg0Cbvp80E",
        "6udg0Cvonw0E4olg0Ce1h80E4olg0Ce1h80E4olg0Cc8nw0E7x9g0Cast80E7x9g0Cast80E7x9g0Cast80E8a",
        "840Cafuk0E7x9g0Cb5rw0E7x9g0Cast80E7x9g0Cast80E7x9g0Cast80E7x9g0Cast80E7x9g0Cb5rw0E7kas",
        "0Cb5rw0E7x9g0Cast80E7x9g0Cast80E7x9g0Cast80E7x9g0Cast80E7x9g0Cb5rw0E7kas0Cb5rw0E7x9g0C",
        "ast80E7x9g0E6xxvj"]⟩,
    ⟨"America/Santo_Domingo",
      [⟨-280, false⟩, ⟨-300, false⟩, ⟨-240, true⟩, ⟨-270, true⟩, ⟨-240, false⟩],
      ["A0Bgc21y8Chiw29cB67zw0D1dy840B62ha0Dcnle0B4h2m0Delyq0B47ta0Dei9e0B4bim0Deek20B4dda0Eec",
        "pe0Bdkmtg0E1stc0"]⟩,
    ⟨"America/Sao_Paulo", [⟨-186, false⟩, ⟨-180, false⟩, ⟨-120, true⟩],
      ["B6aehmcC99k8x8B9a9c0C9io40B99980C8p65g0B6zuo0Cbs2o0B67zw0Ccjxg0B69uk0Ccjxg0B4ml80C5k02",
        "s0B6onw0Chaas0B316k0Ccls40B4ml80Ccls40B66580Ccls40B67zw0C981s40B6u7w0Cbiw40B5rbw0Cd0lg",
        "0B5ed80Ccyqs0B5ed80Cdbpg0B64ak0Ccyqs0B64ak0Ccls40B5rbw0Cdbpg0B51ek0Cdbpg0B6h980Cc8tg0B",
        "6h980Cc8tg0B64ak0Cc8tg0B6u7w0Cbxpg0B7iak0Cbiw40B6u7w0Cbiw40B7k580Cbiw40B6u7w0Cc8tg0B6h",
        "980Cdbpg0B5ed80Ccls40B64ak0Cdfes0B5nmk0Cc8tg0B6h980Cdbpg0B5rbw0Cbvus0B6h980Ccls40B64ak",
        "0Ccls40B6h980Cc8tg0B6h980Cc8tg0B6u7w0Cc8tg0B64ak0Ccls40B64ak0Ccls40B6h980Cc8tg0B6h980C",
        "c8tg0B6h980Cc8tg0B6h980Cdbpg0B5ed80B9vi8rj"]⟩,
    ⟨"America/Scoresbysund", [⟨-88, false⟩, ⟨-120, false⟩, ⟨-60, true⟩, ⟨0, true⟩, ⟨-60, false⟩],
      ["B7mp920Cx8ntpkB902o0D9cvs0E9cyk0D9d1c0E9d1c0D9d1c0E9d1c0D9d1c0E9q000D9d1c0E9d1c0D9d1c0",
        "E9d1c0D9d1c0E9d1c0D9d1c0E9d1c0D9d1c0E9d1c0D9d1c0E9q000D9d1c0E9d1c0D9d1c0E9d1c0D9d1c0E9",
        "d1c0D9d1c0E9d1c0D9d1c0E9d1c0D9q000Easw00D7x6o0Easw00D7x6o0Easw00D7x6o0Eb5uo0D7k800Eb5u",
        "o0D7k800Eb5uo0D7x6o0Easw00D7x6o0Easw00D7x6o0Eb5uo0D7k800Eb5uo0D7k800Eb5uo0D7k800Eb5uo0",
        "D7x6o0Easw00D7x6o0Easw00D7x6o0Eb5uo0D7k800Eb5uo0D7k800Eb5uo0D7x6o0Easw00D7x6o0Easw00D7",
        "x6o0Easw00D7x6o0Eb5uo0D7k800Eb5uo0D7k800Eb5uo0D7x6o0Easw00D7x6o0Easw00D7x6o0Eb5uo0D7k8",
        "00Eb5uo0D7k800Eb5uo0C7x6o0Basw00C7x6o0Basw00C7x6o0Basw00C7x6o0Bb5uo0C7k800Bb5uo0C7k800",
        "Bb5uo0C7x6o0Basw00C7x6o0Basw00C7x6o0Bb5uo0C7k800Bb5uo0C7k800Bb5uo0C7k800Bb5uo0C7x6o0Ba",
        "sw00C7x6o0Basw00B4ffjj"]⟩,
    ⟨"America/Sitka", [⟨899, false⟩, ⟨-480, false⟩, ⟨-420, true⟩, ⟨-540, false⟩, ⟨-480, true⟩],
      ["B0Ckyi4rkC1tz2s0B2dyg0Ccawis0B9cyk0C9d440B9cyk0C9d440B9px80C9d440B9cyk0C9d440B9cyk0C3l",
        "pg0Bf4d80C64g40Bclmk0C9d440B9px80C905g0B9px80C9d440B9cyk0C9d440B9cyk0C9d440B9cyk0C9d44",
        "0B9cyk0C9d440B9px80C905g0D9px80D1leo0E7rs80D9cyk0E9d440D9cyk0E9d440D9cyk0E8a840Dafuk0E",
        "8a840Dast80E7x9g0Dast80E7x9g0Dast80E8a840Dafuk0E8a840Dafuk0E8a840Dast80E7x9g0Dast80E7x",
        "9g0Dast80E8a840Dafuk0E8a840Dafuk0E8a840Dafuk0E8a840Dast80E7x9g0Dast80E7x9g0Dast80E8a84",
        "0Dafuk0E8a840Dafuk0E8a840Dast80E7x9g0Dast80E7x9g0Dast80E6udg0Dc8nw0E6hes0Dc8nw0E6hes0D",
        "c8nw0E6udg0Dc8nw0E6hes0Dc8nw0E6hes0Dc8nw0E6hes0Dc8nw0E6hes0Dc8nw0E6hes0Dc8nw0E6udg0Dc8",
        "nw0E6hes0Dc8nw0E6hes0Dc8nw0E6hes0Dc8nw0E6hes0Dc8nw0E6udg0Dc8nw0E6hes0Dc8nw0E6hes0Dc8nw",
        "0E6hes0Dc8nw0E6hes0Dc8nw0E6hes0Dc8nw0E6udg0Dc8nw0E6hes0Dc8nw0E6hes0Dc8nw0E6hes0Dc8nw0E",
        "6hes0Dc8nw0E6udg0Dc8nw0E6hes0Dc8nw0E6hes0Dc8nw0E6hes0Dc8nw0E6hes0Dc8nw0E6hes0Dc8nw0"]⟩,
    ⟨"America/St_Johns", [⟨-211, false⟩, ⟨-151, true⟩, ⟨-210, false⟩, ⟨-150, true⟩, ⟨-90, true⟩],
      ["A0B7zrxn0A8bx80Bar440Aa2vw0B9tjs0A53980Bdkys0A9cyk0B9d440A9cyk0B9q2s0A8zzw0B9q2s0A8zzw",
        "0B9q2s0A8zzw0B9q2s0A8zzw0B9q2s0A9cyk0B9d440A9cyk0B9q2s0A8zzw0B9q2s0A8zzw0B9q2s0A8zzw0B",
        "9q2s0A8zzw0B9q2s0A9cyk0B9q2s0A8zzw0B9q2s0A8zzw0C7tmw0D1wfukC8zzw0Da3480C7k580Db5xg0C7k",
        "580Db5xg0C7k580Dbiw40C776k0Dbiw40C7k580Db5xg0C7k580Db5xg0D1pb260C2dly0Dbiw40C7k580Db5x",
        "g0C7k580Db5xg0C7k580Db5xg0C7k580Dbiw40C7k580Dag040C7x3w0Dasys0C7x3w0Dasys0C7x3w0Dasys0",
        "C7x3w0Dasys0C7x3w0Db5xg0C7x3w0Dasys0C7x3w0Dasys0C7x3w0Dasys0C7x3w0Dasys0C9px80D9d440C9",
        "cyk0D9d440C9cyk0D9d440C9cyk0D9d440C9cyk0D9d440C9px80D905g0C9px80D9d440C9cyk0D9d440C9cy",
        "k0D9d440C9cyk0D9d440C9cyk0D9d440C9px80D9d440C9cyk0D9d440C9cyk0D9d440C9cyk0D9d440C9cyk0",
        "D9d440C9px80D905g0C9px80D9d440C9cyk0D9d440C9cyk0D9d440C9cyk0D9d440C9cyk0D9d440C9px80D9",
        "05g0C9px80D9d440C9cyk0D9d440C9cyk0D9d440C9cyk0D8a2loCafuk0E8a840Casqg0D7xc80Cast80D7x9",
        "g0Cast80D8a840Cafuk0D8a840Cafuk0D8a840Cast80D7x9g0Cast80D7x9g0Cast80D8a840Cafuk0D8a840",
        "Cafuk0D8a840Cafuk0D8a840Cast80D7x9g0Cast80D7x9g0Cast80D8a840Cafuk0D8a840Cafuk0D8a840Ca",
        "st80D7x9g0Cast80D7x9g0Cast80D6udg0Cc8nw0D6hes0Cc8nw0D6hes0Cc8nw0D6udg0Cc8nw0D6hes0Cc8t",
        "ecD6hes0Cc8nw0D6hes0Cc8nw0D6hes0Cc8nw0D6hes0Cc8nw0D6udg0Cc8nw0D6hes0Cc8nw0D6hes0Cc8nw0",
        "D6hes0Cc8nw0D6hes0Cc8nw0D6udg0Cc8nw0D6hes0Cc8nw0D6hes0Cc8nw0D6hes0Cc8nw0D6hes0Cc8nw0D6",
        "hes0Cc8nw0D6udg0Cc8nw0D6hes0Cc8nw0D6hes0Cc8nw0D6hes0Cc8nw0D6hes0Cc8nw0D6udg0Cc8nw0D6he",
        "s0Cc8nw0D6hes0Cc8nw0D6hes0Cc8nw0D6hes0Cc8nw0D6hes0Cc8nw0"]⟩,
    ⟨"America/St_Kitts", [⟨-251, false⟩, ⟨-240, false⟩],
      ["B5bxtxo"]⟩,
    ⟨"America/St_Lucia", [⟨-244, false⟩, ⟨-240, false⟩],
      ["A0B58suy8"]⟩,
    ⟨"America/St_Thomas", [⟨-260, false⟩, ⟨-240, false⟩],
      ["B4zc50g"]⟩,
    ⟨"America/St_Vincent", [⟨-245, false⟩, ⟨-240, false⟩],
      ["A0B58suzs"]⟩,
    ⟨"America/Swift_Current", [⟨-431, false⟩, ⟨-420, false⟩, ⟨-360, true⟩, ⟨-360, false⟩],
      ["B1xtrmgC6l1h14Ba2vw0Cc5jxg0C1tz5k0B2dvo0Casys0B8n180Ca31g0B7x3w0Casys0B7x3w0Casys0B7x3",
        "w0C3yles0B9cyk0Cs36s0B9cyk0C9d440B7x3w0Cb5xg0B7k580D5j4lg0"]⟩,
    ⟨"America/Tegucigalpa", [⟨-349, false⟩, ⟨-360, false⟩, ⟨-300, true⟩],
      ["Ba2kjt0Cyho0ikB7k580Cb5xg0B7k580C96x1g0B4qak0"]⟩,
    ⟨"America/Thule", [⟨-275, false⟩, ⟨-240, false⟩, ⟨-180, true⟩],
      ["B7mphq4C12yzilgB9cyk0C9d440B9cyk0C9q2s0Bast80C7x9g0Bast80C7x9g0Bast80C8a840Bafuk0C8a84",
        "0Bafuk0C8a840Bafuk0C8a840Bast80C7x9g0Bast80C7x9g0Bast80C8a840Bafuk0C8a840Bafuk0C8a840B",
        "ast80C7x9g0Bast80C7x9g0Bast80C6udg0Bc8nw0C6hes0Bc8nw0C6hes0Bc8nw0C6udg0Bc8nw0C6hes0Bc8",
        "nw0C6hes0Bc8nw0C6hes0Bc8nw0C6hes0Bc8nw0C6hes0Bc8nw0C6udg0Bc8nw0C6hes0Bc8nw0C6hes0Bc8nw",
        "0C6hes0Bc8nw0C6hes0Bc8nw0C6udg0Bc8nw0C6hes0Bc8nw0C6hes0Bc8nw0C6hes0Bc8nw0C6hes0Bc8nw0C",
        "6hes0Bc8nw0C6udg0Bc8nw0C6hes0Bc8nw0C6hes0Bc8nw0C6hes0Bc8nw0C6hes0Bc8nw0C6udg0Bc8nw0C6h",
        "es0Bc8nw0C6hes0Bc8nw0C6hes0Bc8nw0C6hes0Bc8nw0C6hes0Bc8nw0"]⟩,
    ⟨"America/Tijuana", [⟨-468, false⟩, ⟨-420, false⟩, ⟨-480, false⟩, ⟨-420, true⟩],
      ["BagpwfkC11juo0B1sm040C1si580D71s40C9cyk0D5iidg0D1q6700C4qzk0D18uw40Celuk0Doa5g0C7iak0D",
        "b6300C7x3w0Dasys0C7x3w0Dtiyo0C7x6o0Dasw00C7x6o0Db5uo0C7x6o0Dasw00C7x6o0Dasw00C7x6o0Das",
        "w00C7x6o0Dasw00C7x6o0D84qys0C9px80D905g0C9px80D9d440C9cyk0D9d440C9cyk0D9d440C9cyk0D9d4",
        "40C9cyk0D9d440C9px80D905g0C9px80D9d440C9cyk0D9d440C9cyk0D9d440C9cyk0D8a840Cafuk0D8a840",
        "Cast80D7x9g0Cast80D7x9g0Cast80D8a840Cafuk0D8a840Cafuk0D8a840Cast80D7x9g0Cast80D7x9g0Ca",
        "st80D8a840Cafuk0D8a840Cafuk0D8a840Cafuk0D8a840Cast80D7x9g0Cast80D7x9g0Cast80D8a840Cafu",
        "k0D8a840Cafuk0D8a840Cast80D7x9g0Cast80D7x9g0Cast80D7x9g0Cast80D8a840Cafuk0D8a840Cafuk0",
        "D77c40Cc8nw0D6hes0Cc8nw0D6hes0Cc8nw0D6hes0Cc8nw0D6hes0Cc8nw0D6hes0Cc8nw0D6udg0Cc8nw0D6",
        "hes0Cc8nw0D6hes0Cc8nw0D6hes0Cc8nw0D6hes0Cc8nw0D6udg0Cc8nw0D6hes0Cc8nw0D6hes0Cc8nw0D6he",
        "s0Cc8nw0D6hes0Cc8nw0D6hes0Cc8nw0D6udg0Cc8nw0D6hes0Cc8nw0D6hes0Cc8nw0D6hes0Cc8nw0D6hes0",
        "Cc8nw0D6udg0Cc8nw0D6hes0Cc8nw0D6hes0Cc8nw0D6hes0Cc8nw0D6hes0Cc8nw0D6hes0Cc8nw0"]⟩,
    ⟨"America/Toronto", [⟨-318, false⟩, ⟨-300, false⟩, ⟨-240, true⟩],
      ["B0C8iv33kBa2vw0C7yx60Baqzy0C9q8c0B7jzo0Cbw0c0B6bp80Ccedg0B6h980Cc8tg0B6h980Cbvus0B776k",
        "0Cbiw40B776k0Cbiw40B776k0Cbiw40B7k580Cb5xg0B7x3w0Casys0B7x3w0Casys0B7x3w0Casys0B7x3w0C",
        "b5xg0B7k580Cb5xg0B7x3w0Casys0B7x3w0Casys0B7x3w0Casys0B7x3w0Casys0B7x3w0Casys0B7x3w0Cb5",
        "xg0B7k580Cb5xg0Cxjeo0C1tzb40B2dq40Casys0B7x3w0Casys0B7x3w0Casys0B7x3w0Casys0Bb5rw0C7x9",
        "g0Bast80C7x9g0B7x3w0Casys0B7x3w0Casys0B7x3w0Casys0B7x3w0Casys0B7x3w0Cb5xg0B7x3w0Casys0",
        "B9cyk0C9d440B9cyk0C9d440B9cyk0C9d440B9px80C9d440B9cyk0C9d440B9cyk0C9d440B9cyk0C9d440B9",
        "cyk0C9d440B9px80C905g0B9px80C9d440B9cyk0C9d440B9cyk0C9d440B9cyk0C9d440B9cyk0C9d440B9px",
        "80C9d440B9cyk0C9d440B9cyk0C9d440B9cyk0C9d440B9cyk0C9d440B9px80C905g0B9px80C9d440B9cyk0",
        "C9d440B9cyk0C9d440B9cyk0C9d440B9cyk0C9d440B9px80C905g0B9px80C9d440B9cyk0C9d440B9cyk0C9",
        "d440B9cyk0C8a840Bafuk0C8a840Bast80C7x9g0Bast80C7x9g0Bast80C8a840Bafuk0C8a840Bafuk0C8a8",
        "40Bast80C7x9g0Bast80C7x9g0Bast80C8a840Bafuk0C8a840Bafuk0C8a840Bafuk0C8a840Bast80C7x9g0",
        "Bast80C7x9g0Bast80C8a840Bafuk0C8a840Bafuk0C8a840Bast80C7x9g0Bast80C7x9g0Bast80C6udg0Bc",
        "8nw0C6hes0Bc8nw0C6hes0Bc8nw0C6udg0Bc8nw0C6hes0Bc8nw0C6hes0Bc8nw0C6hes0Bc8nw0C6hes0Bc8n",
        "w0C6hes0Bc8nw0C6udg0Bc8nw0C6hes0Bc8nw0C6hes0Bc8nw0C6hes0Bc8nw0C6hes0Bc8nw0C6udg0Bc8nw0",
        "C6hes0Bc8nw0C6hes0Bc8nw0C6hes0Bc8nw0C6hes0Bc8nw0C6hes0Bc8nw0C6udg0Bc8nw0C6hes0Bc8nw0C6",
        "hes0Bc8nw0C6hes0Bc8nw0C6hes0Bc8nw0C6udg0Bc8nw0C6hes0Bc8nw0C6hes0Bc8nw0C6hes0Bc8nw0C6he",
        "s0Bc8nw0C6hes0Bc8nw0"]⟩,
    ⟨"America/Tortola", [⟨-258, false⟩, ⟨-240, false⟩],
      ["B4zc4yc"]⟩,
    ⟨"America/Vancouver", [⟨-492, false⟩, ⟨-480, false⟩, ⟨-420, true⟩],
      ["B0C8ivbfkBa2vw0Cc5jxg0C1tz2s0B2dyg0Casys0B7x3w0Casys0B7x3w0Casys0B7x3w0Casys0B7x3w0Cb5",
        "xg0B7k580Cb5xg0B7x3w0Casys0B7x3w0Casys0B7x3w0Casys0B7x3w0Casys0B7x3w0Cb5xg0B7x3w0Casys",
        "0B7x3w0Casys0B7x3w0Casys0B7x3w0Casys0B7x3w0Cb5xg0B7k580Cb5xg0B9cyk0C9d440B9cyk0C9d440B",
        "9cyk0C9d440B9px80C905g0B9px80C9d440B9cyk0C9d440B9cyk0C9d440B9cyk0C9d440B9cyk0C9d440B9p",
        "x80C9d440B9cyk0C9d440B9cyk0C9d440B9cyk0C9d440B9cyk0C9d440B9px80C905g0B9px80C9d440B9cyk",
        "0C9d440B9cyk0C9d440B9cyk0C9d440B9cyk0C9d440B9px80C905g0B9px80C9d440B9cyk0C9d440B9cyk0C",
        "9d440B9cyk0C8a840Bafuk0C8a840Bast80C7x9g0Bast80C7x9g0Bast80C8a840Bafuk0C8a840Bafuk0C8a",
        "840Bast80C7x9g0Bast80C7x9g0Bast80C8a840Bafuk0C8a840Bafuk0C8a840Bafuk0C8a840Bast80C7x9g",
        "0Bast80C7x9g0Bast80C8a840Bafuk0C8a840Bafuk0C8a840Bast80C7x9g0Bast80C7x9g0Bast80C6udg0B",
        "c8nw0C6hes0Bc8nw0C6hes0Bc8nw0C6udg0Bc8nw0C6hes0Bc8nw0C6hes0Bc8nw0C6hes0Bc8nw0C6hes0Bc8",
        "nw0C6hes0Bc8nw0C6udg0Bc8nw0C6hes0Bc8nw0C6hes0Bc8nw0C6hes0Bc8nw0C6hes0Bc8nw0C6udg0Bc8nw",
        "0C6hes0Bc8nw0C6hes0Bc8nw0C6hes0Bc8nw0C6hes0Bc8nw0C6hes0Bc8nw0C6udg0Bc8nw0C6hes0Bc8nw0C",
        "6hes0Bc8nw0C6hes0Bc8nw0C6hes0Bc8nw0C6udg0Bc8nw0C6hes0Bc8nw0C6hes0Bc8nw0C6hes0Bc8nw0C6h",
        "es0Bc8nw0C6hes0Bc8nw0"]⟩,
    ⟨"America/Whitehorse",
      [⟨-540, false⟩, ⟨-480, true⟩, ⟨-420, true⟩, ⟨-480, false⟩, ⟨-420, false⟩],
      ["A0B8ive7kAa2vw0Basys0A882c0Bbmiwc0B1tz000A2e180Ca7n3w0A9q000D64dc0C7e3pg0D9cyk0C9d440D",
        "9cyk0C9d440D9px80C905g0D9px80C9d440D9cyk0C9d440D9cyk0C9d440D9cyk0C8a840Dafuk0C8a840Das",
        "t80C7x9g0Dast80C7x9g0Dast80C8a840Dafuk0C8a840Dafuk0C8a840Dast80C7x9g0Dast80C7x9g0Dast8",
        "0C8a840Dafuk0C8a840Dafuk0C8a840Dafuk0C8a840Dast80C7x9g0Dast80C7x9g0Dast80C8a840Dafuk0C",
        "8a840Dafuk0C8a840Dast80C7x9g0Dast80C7x9g0Dast80C6udg0Dc8nw0C6hes0Dc8nw0C6hes0Dc8nw0C6u",
        "dg0Dc8nw0C6hes0Dc8nw0C6hes0Dc8nw0C6hes0Dc8nw0C6hes0Dc8nw0C6hes0Dc8nw0C6udg0Dc8nw0C6hes",
        "0Dc8nw0C6hes0Dc8nw0C6hes0Dc8nw0C6hes0Ec8ic0"]⟩,
    ⟨"America/Winnipeg", [⟨-389, false⟩, ⟨-360, false⟩, ⟨-300, true⟩],
      ["B0C7hrtnkB7k580Ctj700Ba2vw0C9ok840B6u7w0C2a5hg0C1tz8c0B2dsw0Cbiw40B7x3w0Ca31g0B7x3w0Ca",
        "sys0B7x3w0Casys0B7x3w0Cb7s40B7tek0Cautg0B7x3w0Casys0B7x3w0Casys0B7x3w0Casys0B7x3w0Casy",
        "s0B7x3w0Cb5xg0B7x3w0Casys0B7x3w0Casys0B7x3w0Casys0B9cyk0C9d440B7x3w0C1cm2s0B7k580C1cm2",
        "s0B9q000C9d1c0B9d1c0C9d1c0B9d1c0C9d1c0B9d1c0C9d1c0B9d1c0C9d1c0B9q000C9d1c0B9d1c0C9d1c0",
        "B9d1c0C9d1c0B9d1c0C9d1c0B9d1c0C9d1c0B9q000C902o0B9q000C9d1c0B9d1c0C9d1c0B9d1c0C9d1c0B9",
        "d1c0C9d1c0B9d1c0C9d1c0B9q000C902o0B9q000C9d1c0B9d1c0C9d1c0B9d1c0C9d1c0B9d1c0C8a5c0Bafx",
        "c0C8a5c0Basw00C7x6o0Basw00C7x6o0Basw00C8a5c0Bafxc0C8a5c0Bafxc0C8a5c0Basw00C7x6o0Basw00",
        "C7x6o0Basw00C8a5c0Bafxc0C8a5c0Bafxc0C8a5c0Bafxc0C8a5c0Basw00C7x6o0Basw00C7x6o0Basw00C8",
        "a5c0Bafxc0C8a5c0Bafxc0C8a5c0Basw00C7x6o0Basw00C7x6o0Bast80C6udg0Bc8nw0C6hes0Bc8nw0C6he",
        "s0Bc8nw0C6udg0Bc8nw0C6hes0Bc8nw0C6hes0Bc8nw0C6hes0Bc8nw0C6hes0Bc8nw0C6hes0Bc8nw0C6udg0",
        "Bc8nw0C6hes0Bc8nw0C6hes0Bc8nw0C6hes0Bc8nw0C6hes0Bc8nw0C6udg0Bc8nw0C6hes0Bc8nw0C6hes0Bc",
        "8nw0C6hes0Bc8nw0C6hes0Bc8nw0C6hes0Bc8nw0C6udg0Bc8nw0C6hes0Bc8nw0C6hes0Bc8nw0C6hes0Bc8n",
        "w0C6hes0Bc8nw0C6udg0Bc8nw0C6hes0Bc8nw0C6hes0Bc8nw0C6hes0Bc8nw0C6hes0Bc8nw0C6hes0Bc8nw0"]⟩,
    ⟨"America/Yakutat", [⟨881, false⟩, ⟨-540, false⟩, ⟨-480, true⟩],
      ["B0Ckyi7jkC1tz000B2e180Ccawis0B9cyk0C9d440B9cyk0C9d440B9px80C9d440B9cyk0C9d440B9cyk0C3l",
        "pg0Bf4d80C64g40Bclmk0C9d440B9px80C905g0B9px80C9d440B9cyk0C9d440B9cyk0C9d440B9cyk0C9d44",
        "0B9cyk0C9d440B9px80C905g0B9px80B1lbw0C7rs80B9cyk0C9d440B9cyk0C9d440B9cyk0C8a840Bafuk0C",
        "8a840Bast80C7x9g0Bast80C7x9g0Bast80C8a840Bafuk0C8a840Bafuk0C8a840Bast80C7x9g0Bast80C7x",
        "9g0Bast80C8a840Bafuk0C8a840Bafuk0C8a840Bafuk0C8a840Bast80C7x9g0Bast80C7x9g0Bast80C8a84",
        "0Bafuk0C8a840Bafuk0C8a840Bast80C7x9g0Bast80C7x9g0Bast80C6udg0Bc8nw0C6hes0Bc8nw0C6hes0B",
        "c8nw0C6udg0Bc8nw0C6hes0Bc8nw0C6hes0Bc8nw0C6hes0Bc8nw0C6hes0Bc8nw0C6hes0Bc8nw0C6udg0Bc8",
        "nw0C6hes0Bc8nw0C6hes0Bc8nw0C6hes0Bc8nw0C6hes0Bc8nw0C6udg0Bc8nw0C6hes0Bc8nw0C6hes0Bc8nw",
        "0C6hes0Bc8nw0C6hes0Bc8nw0C6hes0Bc8nw0C6udg0Bc8nw0C6hes0Bc8nw0C6hes0Bc8nw0C6hes0Bc8nw0C",
        "6hes0Bc8nw0C6udg0Bc8nw0C6hes0Bc8nw0C6hes0Bc8nw0C6hes0Bc8nw0C6hes0Bc8nw0C6hes0Bc8nw0"]⟩]

end CivilTime.Gazetteer
