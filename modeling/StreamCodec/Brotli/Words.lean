/-!
The words of the Brotli dictionary, 4 to 24 bytes each, in base 64. The words of one length stand
one after another, and their number is a power of two.
-/

namespace StreamCodec.Brotli.Words

def length4 : List String :=
  ["dGltZWRvd25saWZlbGVmdGJhY2tjb2RlZGF0YXNob3dvbmx5c2l0ZWNpdHlvcGVuanVzdGxpa2VmcmVld29ya3RleHR5",
    "ZWFyb3ZlcmJvZHlsb3ZlZm9ybWJvb2twbGF5bGl2ZWxpbmVoZWxwaG9tZXNpZGVtb3Jld29yZGxvbmd0aGVtdmlld2Zp",
    "bmRwYWdlZGF5c2Z1bGxoZWFkdGVybWVhY2hhcmVhZnJvbXRydWVtYXJrYWJsZXVwb25oaWdoZGF0ZWxhbmRuZXdzZXZl",
    "bm5leHRjYXNlYm90aHBvc3R1c2VkbWFkZWhhbmRoZXJld2hhdG5hbWVMaW5rYmxvZ3NpemViYXNlaGVsZG1ha2VtYWlu",
    "dXNlcicpICtob2xkZW5kc3dpdGhOZXdzcmVhZHdlcmVzaWdudGFrZWhhdmVnYW1lc2VlbmNhbGxwYXRod2VsbHBsdXNt",
    "ZW51ZmlsbXBhcnRqb2ludGhpc2xpc3Rnb29kbmVlZHdheXN3ZXN0am9ic21pbmRhbHNvbG9nb3JpY2h1c2VzbGFzdHRl",
    "YW1hcm15Zm9vZGtpbmd3aWxsZWFzdHdhcmRiZXN0ZmlyZVBhZ2Vrbm93YXdheS5wbmdtb3ZldGhhbmxvYWRnaXZlc2Vs",
    "Zm5vdGVtdWNoZmVlZG1hbnlyb2NraWNvbm9uY2Vsb29raGlkZWRpZWRIb21lcnVsZWhvc3RhamF4aW5mb2NsdWJsYXdz",
    "bGVzc2hhbGZzb21lc3VjaHpvbmUxMDAlb25lc2NhcmVUaW1lcmFjZWJsdWVmb3Vyd2Vla2ZhY2Vob3BlZ2F2ZWhhcmRs",
    "b3N0d2hlbnBhcmtrZXB0cGFzc3NoaXByb29tSFRNTHBsYW5UeXBlZG9uZXNhdmVrZWVwZmxhZ2xpbmtzb2xkZml2ZXRv",
    "b2tyYXRldG93bmp1bXB0aHVzZGFya2NhcmRmaWxlZmVhcnN0YXlraWxsdGhhdGZhbGxhdXRvZXZlci5jb210YWxrc2hv",
    "cHZvdGVkZWVwbW9kZXJlc3R0dXJuYm9ybmJhbmRmZWxscm9zZXVybChza2lucm9sZWNvbWVhY3RzYWdlc21lZXRnb2xk",
    "LmpwZ2l0ZW12YXJ5ZmVsdHRoZW5zZW5kZHJvcFZpZXdjb3B5MS4wIjwvYT5zdG9wZWxzZWxpZXN0b3VycGFjay5naWZw",
    "YXN0Y3NzP2dyYXltZWFuJmd0O3JpZGVzaG90bGF0ZXNhaWRyb2FkdmFyIGZlZWxqb2hucmlja3BvcnRmYXN0J1VBLWRl",
    "YWQ8L2I+cG9vcmJpbGx0eXBlVS5TLndvb2RtdXN0MnB4O0luZm9yYW5rd2lkZXdhbnR3YWxsbGVhZFswXTtwYXVsd2F2",
    "ZXN1cmUkKCcjd2FpdG1hc3Nhcm1zZ29lc2dhaW5sYW5ncGFpZCEtLSBsb2NrdW5pdHJvb3R3YWxrZmlybXdpZmV4bWwi",
    "c29uZ3Rlc3QyMHB4a2luZHJvd3N0b29sZm9udG1haWxzYWZlc3Rhcm1hcHNjb3JlcmFpbmZsb3diYWJ5c3BhbnNheXM0",
    "cHg7NnB4O2FydHNmb290cmVhbHdpa2loZWF0c3RlcHRyaXBvcmcvbGFrZXdlYWt0b2xkRm9ybWNhc3RmYW5zYmFua3Zl",
    "cnlydW5zanVseXRhc2sxcHg7Z29hbGdyZXdzbG93ZWRnZWlkPSJzZXRzNXB4Oy5qcz80MHB4aWYgKHNvb25zZWF0bm9u",
    "ZXR1YmV6ZXJvc2VudHJlZWRmYWN0aW50b2dpZnRoYXJtMThweGNhbWVoaWxsYm9sZHpvb212b2lkZWFzeXJpbmdmaWxs",
    "cGVha2luaXRjb3N0M3B4O2phY2t0YWdzYml0c3JvbGxlZGl0a25ld25lYXI8IS0tZ3Jvd0pTT05kdXR5TmFtZXNhbGV5",
    "b3UgbG90c3BhaW5qYXp6Y29sZGV5ZXNmaXNod3d3LnJpc2t0YWJzcHJldjEwcHhyaXNlMjVweEJsdWVkaW5nMzAwLGJh",
    "bGxmb3JkZWFybndpbGRib3guZmFpcmxhY2t2ZXJzcGFpcmp1bmV0ZWNoaWYoIXBpY2tldmlsJCgiI3dhcm1sb3JkZG9l",
    "c3B1bGwsMDAwaWRlYWRyYXdodWdlc3BvdGZ1bmRidXJuaHJlZmNlbGxrZXlzdGlja2hvdXJsb3NzZnVlbDEycHhzdWl0",
    "ZGVhbFJTUyJhZ2VkZ3JleUdFVCJlYXNlYWltc2dpcmxhaWRzOHB4O25hdnlncmlkdGlwcyM5OTl3YXJzbGFkeWNhcnMp",
    "OyB9cGhwP2hlbGx0YWxsd2hvbXpoOuUqLw0KIDEwMGhhbGwuCgpBN3B4O3B1c2hjaGF0MHB4O2NyZXcqLzwvaGFzaDc1",
    "cHhmbGF0cmFyZSAmJiB0ZWxsY2FtcG9udG9sYWlkbWlzc3NraXB0ZW50ZmluZW1hbGVnZXRzcGxvdDQwMCwNCg0KY29v",
    "bGZlZXQucGhwPGJyPmVyaWNtb3N0Z3VpZGJlbGxkZXNjaGFpcm1hdGhhdG9tL2ltZyYjODJsdWNrY2VudDAwMDt0aW55",
    "Z29uZWh0bWxzZWxsZHJ1Z0ZSRUVub2Rlbmljaz9pZD1sb3NlbnVsbHZhc3R3aW5kUlNTIHdlYXJyZWx5YmVlbnNhbWVk",
    "dWtlbmFzYWNhcGV3aXNoZ3VsZlQyMzpoaXRzc2xvdGdhdGVraWNrYmx1cnRoZXkxNXB4JycpOyk7Ij5tc2lld2luc2Jp",
    "cmRzb3J0YmV0YXNlZWtUMTg6b3Jkc3RyZWVtYWxsNjBweGZhcm3igJlzYm95c1swXS4nKTsiUE9TVGJlYXJraWRzKTt9",
    "fW1hcnl0ZW5kKFVLKXF1YWR6aDrmLXNpei0tLS1wcm9wJyk7DWxpZnRUMTk6dmljZWFuZHlkZWJ0PlJTU3Bvb2xuZWNr",
    "Ymxvd1QxNjpkb29yZXZhbFQxNzpsZXRzZmFpbG9yYWxwb2xsbm92YWNvbHNnZW5lIOKAlHNvZnRyb21ldGlsbHJvc3M8",
    "aDM+cG91cmZhZGVwaW5rPHRyPm1pbmkpfCEobWluZXpoOuhiYXJzaGVhcjAwKTttaWxrIC0tPmlyb25mcmVkZGlza3dl",
    "bnRzb2lscHV0cy9qcy9ob2x5VDIyOklTQk5UMjA6YWRhbXNlZXM8aDI+anNvbicsICdjb250VDIxOiBSU1Nsb29wYXNp",
    "YW1vb248L3A+c291bExJTkVmb3J0Y2FydFQxNDo8aDE+ODBweCEtLTw5cHg7VDA0Om1pa2U6NDZabmljZWluY2hZb3Jr",
    "cmljZXpoOuQnKSk7cHVyZW1hZ2VwYXJhdG9uZWJvbmQ6MzdaX29mXyddKTswMDAsemg653Rhbmt5YXJkYm93bGJ1c2g6",
    "NTZaSmF2YTMwcHgKfH0KJUMzJTozNFpqZWZmRVhQSWNhc2h2aXNhZ29sZnNub3d6aDrpcXVlci5jc3NzaWNrbWVhdG1p",
    "bi5iaW5kZGVsbGhpcmVwaWNzcmVudDozNlpIVFRQLTIwMWZvdG93b2xmRU5EIHhib3g6NTRaQk9EWWRpY2s7Cn0KZXhp",
    "dDozNVp2YXJzYmVhdCd9KTtkaWV0OTk5O2FubmV9fTwvW2ldLkxhbmdrbcKyd2lyZXRveXNhZGRzc2VhbGFsZXg7Cgl9",
    "ZWNob25pbmUub3JnMDA1KXRvbnlqZXdzc2FuZGxlZ3Nyb29mMDAwKSAyMDB3aW5lZ2VhcmRvZ3Nib290Z2FyeWN1dHN0",
    "eWxldGVtcHRpb24ueG1sY29ja2dhbmckKCcuNTBweFBoLkRtaXNjYWxhbmxvYW5kZXNrbWlsZXJ5YW51bml4ZGlzYyk7",
    "fQpkdXN0Y2xpcCkuCgo3MHB4LTIwMERWRHM3XT48dGFwZWRlbW9pKyspd2FnZWV1cm9waGlsb3B0c2hvbGVGQVFzYXNp",
    "bi0yNlRsYWJzcGV0c1VSTCBidWxrY29vazt9DQpIRUFEWzBdKWFiYnJqdWFuKDE5OGxlc2h0d2luPC9pPnNvbnlndXlz",
    "ZnVja3BpcGV8LQohMDAyKW5kb3dbMV07W107CkxvZyBzYWx0DQoJCWJhbmd0cmltYmF0aCl7DQowMHB4Cn0pO2tvOuxm",
    "ZWVzYWQ+DXM6Ly8gW107dG9sbHBsdWcoKXsKew0KIC5qcycyMDBwZHVhbGJvYXQuSlBHKTsKfXF1b3QpOwoKJyk7Cg0K",
    "fQ0yMDE0MjAxNTIwMTYyMDE3MjAxODIwMTkyMDIwMjAyMTIwMjIyMDIzMjAyNDIwMjUyMDI2MjAyNzIwMjgyMDI5MjAz",
    "MDIwMzEyMDMyMjAzMzIwMzQyMDM1MjAzNjIwMzcyMDEzMjAxMjIwMTEyMDEwMjAwOTIwMDgyMDA3MjAwNjIwMDUyMDA0",
    "MjAwMzIwMDIyMDAxMjAwMDE5OTkxOTk4MTk5NzE5OTYxOTk1MTk5NDE5OTMxOTkyMTk5MTE5OTAxOTg5MTk4ODE5ODcx",
    "OTg2MTk4NTE5ODQxOTgzMTk4MjE5ODExOTgwMTk3OTE5NzgxOTc3MTk3NjE5NzUxOTc0MTk3MzE5NzIxOTcxMTk3MDE5",
    "NjkxOTY4MTk2NzE5NjYxOTY1MTk2NDE5NjMxOTYyMTk2MTE5NjAxOTU5MTk1ODE5NTcxOTU2MTk1NTE5NTQxOTUzMTk1",
    "MjE5NTExOTUwMTAwMDEwMjQxMzk0MDAwMDk5OTljb21vbcOhc2VzdGVlc3RhcGVyb3RvZG9oYWNlY2FkYWHDsW9iaWVu",
    "ZMOtYWFzw612aWRhY2Fzb290cm9mb3Jvc29sb290cmFjdWFsZGlqb3NpZG9ncmFudGlwb3RlbWFkZWJlYWxnb3F1w6ll",
    "c3RvbmFkYXRyZXNwb2NvY2FzYWJham90b2Rhc2lub2FndWFwdWVzdW5vc2FudGVkaWNlbHVpc2VsbGFtYXlvem9uYWFt",
    "b3JwaXNvb2JyYWNsaWNlbGxvZGlvc2hvcmFjYXNp0LfQsNC90LDQvtC80YDQsNGA0YPRgtCw0L3QtdC/0L7QvtGC0LjQ",
    "t9C90L7QtNC+0YLQvtC20LXQvtC90LjRhdCd0LDQtdC10LHRi9C80YvQktGL0YHQvtCy0YvQstC+0J3QvtC+0LHQn9C+",
    "0LvQuNC90LjQoNCk0J3QtdCc0YvRgtGL0J7QvdC40LzQtNCw0JfQsNCU0LDQndGD0J7QsdGC0LXQmNC30LXQudC90YPQ",
    "vNC80KLRi9GD0LbZgdmK2KPZhtmF2KfZhdi52YPZhNij2YjYsdiv2YrYp9mB2YnZh9mI2YTZhdmE2YPYp9mI2YTZh9io",
    "2LPYp9mE2KXZhtmH2YrYo9mK2YLYr9mH2YTYq9mF2KjZh9mE2YjZhNmK2KjZhNin2YrYqNmD2LTZitin2YXYo9mF2YbY",
    "qtio2YrZhNmG2K3YqNmH2YXZhdi02YjYtA=="]

def length5 : List String :=
  ["Zmlyc3R2aWRlb2xpZ2h0d29ybGRtZWRpYXdoaXRlY2xvc2VibGFja3JpZ2h0c21hbGxib29rc3BsYWNlbXVzaWNmaWVs",
    "ZG9yZGVycG9pbnR2YWx1ZWxldmVsdGFibGVib2FyZGhvdXNlZ3JvdXB3b3Jrc3llYXJzc3RhdGV0b2RheXdhdGVyc3Rh",
    "cnRzdHlsZWRlYXRocG93ZXJwaG9uZW5pZ2h0ZXJyb3JpbnB1dGFib3V0dGVybXN0aXRsZXRvb2xzZXZlbnRsb2NhbHRp",
    "bWVzbGFyZ2V3b3Jkc2dhbWVzc2hvcnRzcGFjZWZvY3VzY2xlYXJtb2RlbGJsb2NrZ3VpZGVyYWRpb3NoYXJld29tZW5h",
    "Z2Fpbm1vbmV5aW1hZ2VuYW1lc3lvdW5nbGluZXNsYXRlcmNvbG9yZ3JlZW5mcm9udCZhbXA7d2F0Y2hmb3JjZXByaWNl",
    "cnVsZXNiZWdpbmFmdGVydmlzaXRpc3N1ZWFyZWFzYmVsb3dpbmRleHRvdGFsaG91cnNsYWJlbHByaW50cHJlc3NidWls",
    "dGxpbmtzc3BlZWRzdHVkeXRyYWRlZm91bmRzZW5zZXVuZGVyc2hvd25mb3Jtc3JhbmdlYWRkZWRzdGlsbG1vdmVkdGFr",
    "ZW5hYm92ZWZsYXNoZml4ZWRvZnRlbm90aGVydmlld3NjaGVja2xlZ2Fscml2ZXJpdGVtc3F1aWNrc2hhcGVodW1hbmV4",
    "aXN0Z29pbmdtb3ZpZXRoaXJkYmFzaWNwZWFjZXN0YWdld2lkdGhsb2dpbmlkZWFzd3JvdGVwYWdlc3VzZXJzZHJpdmVz",
    "dG9yZWJyZWFrc291dGh2b2ljZXNpdGVzbW9udGh3aGVyZWJ1aWxkd2hpY2hlYXJ0aGZvcnVtdGhyZWVzcG9ydHBhcnR5",
    "Q2xpY2tsb3dlcmxpdmVzY2xhc3NsYXllcmVudHJ5c3Rvcnl1c2FnZXNvdW5kY291cnR5b3VyIGJpcnRocG9wdXB0eXBl",
    "c2FwcGx5SW1hZ2ViZWluZ3VwcGVybm90ZXNldmVyeXNob3dzbWVhbnNleHRyYW1hdGNodHJhY2trbm93bmVhcmx5YmVn",
    "YW5zdXBlcnBhcGVybm9ydGhsZWFybmdpdmVubmFtZWRlbmRlZFRlcm1zcGFydHNHcm91cGJyYW5kdXNpbmd3b21hbmZh",
    "bHNlcmVhZHlhdWRpb3Rha2Vzd2hpbGUuY29tL2xpdmVkY2FzZXNkYWlseWNoaWxkZ3JlYXRqdWRnZXRob3NldW5pdHNu",
    "ZXZlcmJyb2FkY29hc3Rjb3ZlcmFwcGxlZmlsZXNjeWNsZXNjZW5lcGxhbnNjbGlja3dyaXRlcXVlZW5waWVjZWVtYWls",
    "ZnJhbWVvbGRlcnBob3RvbGltaXRjYWNoZWNpdmlsc2NhbGVlbnRlcnRoZW1ldGhlcmV0b3VjaGJvdW5kcm95YWxhc2tl",
    "ZHdob2xlc2luY2VzdG9jayBuYW1lZmFpdGhoZWFydGVtcHR5b2ZmZXJzY29wZW93bmVkbWlnaHRhbGJ1bXRoaW5rYmxv",
    "b2RhcnJheW1ham9ydHJ1c3RjYW5vbnVuaW9uY291bnR2YWxpZHN0b25lU3R5bGVMb2dpbmhhcHB5b2NjdXJsZWZ0OmZy",
    "ZXNocXVpdGVmaWxtc2dyYWRlbmVlZHN1cmJhbmZpZ2h0YmFzaXNob3ZlcmF1dG87cm91dGUuaHRtbG1peGVkZmluYWxZ",
    "b3VyIHNsaWRldG9waWNicm93bmFsb25lZHJhd25zcGxpdHJlYWNoUmlnaHRkYXRlc21hcmNocXVvdGVnb29kc0xpbmtz",
    "ZG91YnRhc3luY3RodW1iYWxsb3djaGllZnlvdXRobm92ZWwxMHB4O3NlcnZldW50aWxoYW5kc0NoZWNrU3BhY2VxdWVy",
    "eWphbWVzZXF1YWx0d2ljZTAsMDAwU3RhcnRwYW5lbHNvbmdzcm91bmRlaWdodHNoaWZ0d29ydGhwb3N0c2xlYWRzd2Vl",
    "a3Nhdm9pZHRoZXNlbWlsZXNwbGFuZXNtYXJ0YWxwaGFwbGFudG1hcmtzcmF0ZXNwbGF5c2NsYWltc2FsZXN0ZXh0c3N0",
    "YXJzd3Jvbmc8L2gzPnRoaW5nLm9yZy9tdWx0aWhlYXJkUG93ZXJzdGFuZHRva2Vuc29saWQodGhpc2JyaW5nc2hpcHNz",
    "dGFmZnRyaWVkY2FsbHNmdWxseWZhY3RzYWdlbnRUaGlzIC8vLS0+YWRtaW5lZ3lwdEV2ZW50MTVweDtFbWFpbHRydWUi",
    "Y3Jvc3NzcGVudGJsb2dzYm94Ij5ub3RlZGxlYXZlY2hpbmFzaXplc2d1ZXN0PC9oND5yb2JvdGhlYXZ5dHJ1ZSxzZXZl",
    "bmdyYW5kY3JpbWVzaWduc2F3YXJlZGFuY2VwaGFzZT48IS0tZW5fVVMmIzM5OzIwMHB4X25hbWVsYXRpbmVuam95YWph",
    "eC5hdGlvbnNtaXRoVS5TLiBob2xkc3BldGVyaW5kaWFuYXYiPmNoYWluc2NvcmVjb21lc2RvaW5ncHJpb3JTaGFyZTE5",
    "OTBzcm9tYW5saXN0c2phcGFuZmFsbHN0cmlhbG93bmVyYWdyZWU8L2gyPmFidXNlYWxlcnRvcGVyYSItLy9XY2FyZHNo",
    "aWxsc3RlYW1zUGhvdG90cnV0aGNsZWFuLnBocD9zYWludG1ldGFsbG91aXNtZWFudHByb29mYnJpZWZyb3ciPmdlbnJl",
    "dHJ1Y2tsb29rc1ZhbHVlRnJhbWUubmV0Ly0tPgo8dHJ5IHsKdmFyIG1ha2VzY29zdHNwbGFpbmFkdWx0cXVlc3R0cmFp",
    "bmxhYm9yaGVscHNjYXVzZW1hZ2ljbW90b3J0aGVpcjI1MHB4bGVhc3RzdGVwc0NvdW50Y291bGRnbGFzc3NpZGVzZnVu",
    "ZHNob3RlbGF3YXJkbW91dGhtb3Zlc3BhcmlzZ2l2ZXNkdXRjaHRleGFzZnJ1aXRudWxsLHx8W107dG9wIj4KPCEtLVBP",
    "U1Qib2NlYW48YnIvPmZsb29yc3BlYWtkZXB0aCBzaXplYmFua3NjYXRjaGNoYXJ0MjBweDthbGlnbmRlYWxzd291bGQ1",
    "MHB4O3VybD0icGFya3Ntb3VzZU1vc3QgLi4uPC9hbW9uZ2JyYWluYm9keSBub25lO2Jhc2VkY2FycnlkcmFmdHJlZmVy",
    "cGFnZV9ob21lLm1ldGVyZGVsYXlkcmVhbXByb3Zlam9pbnQ8L3RyPmRydWdzPCEtLSBhcHJpbGlkZWFsYWxsZW5leGFj",
    "dGZvcnRoY29kZXNsb2dpY1ZpZXcgc2VlbXNibGFua3BvcnRzICgyMDBzYXZlZF9saW5rZ29hbHNncmFudGdyZWVraG9t",
    "ZXNyaW5nc3JhdGVkMzBweDt3aG9zZXBhcnNlKCk7IiBCbG9ja2xpbnV4am9uZXNwaXhlbCcpOyI+KTtpZigtbGVmdGRh",
    "dmlkaG9yc2VGb2N1c3JhaXNlYm94ZXNUcmFja2VtZW50PC9lbT5iYXIiPi5zcmM9dG93ZXJhbHQ9ImNhYmxlaGVucnky",
    "NHB4O3NldHVwaXRhbHlzaGFycG1pbm9ydGFzdGV3YW50c3RoaXMucmVzZXR3aGVlbGdpcmxzL2Nzcy8xMDAlO2NsdWJz",
    "c3R1ZmZiaWJsZXZvdGVzIDEwMDBrb3JlYX0pOw0KYmFuZHNxdWV1ZT0ge307ODBweDtja2luZ3sNCgkJYWhlYWRjbG9j",
    "a2lyaXNobGlrZSByYXRpb3N0YXRzRm9ybSJ5YWhvbylbMF07QWJvdXRmaW5kczwvaDE+ZGVidWd0YXNrc1VSTCA9Y2Vs",
    "bHN9KSgpOzEycHg7cHJpbWV0ZWxsc3R1cm5zMHg2MDAuanBnInNwYWluYmVhY2h0YXhlc21pY3JvYW5nZWwtLT48L2dp",
    "ZnRzc3RldmUtbGlua2JvZHkufSk7Cgltb3VudCAoMTk5RkFRPC9yb2dlcmZyYW5rQ2xhc3MyOHB4O2ZlZWRzPGgxPjxz",
    "Y290dHRlc3RzMjJweDtkcmluaykgfHwgbGV3aXNzaGFsbCMwMzk7IGZvciBsb3ZlZHdhc3RlMDBweDtqYTrjgnNpbW9u",
    "PGZvbnRyZXBseW1lZXRzdW50ZXJjaGVhcHRpZ2h0QnJhbmQpICE9IGRyZXNzY2xpcHNyb29tc29ua2V5bW9iaWxtYWlu",
    "Lk5hbWUgcGxhdGVmdW5ueXRyZWVzY29tLyIxLmpwZ3dtb2RlcGFyYW1TVEFSVGxlZnQgaWRkZW4sIDIwMSk7Cn0KZm9y",
    "bS52aXJ1c2NoYWlydHJhbnN3b3JzdFBhZ2VzaXRpb25wYXRjaDwhLS0Kby1jYWNmaXJtc3RvdXJzLDAwMCBhc2lhbmkr",
    "Kyl7YWRvYmUnKVswXWlkPTEwYm90aDttZW51IC4yLm1pLnBuZyJrZXZpbmNvYWNoQ2hpbGRicnVjZTIuanBnVVJMKSsu",
    "anBnfHN1aXRlc2xpY2VoYXJyeTEyMCIgc3dlZXR0cj4NCm5hbWU9ZGllZ29wYWdlIHN3aXNzLS0+CgojZmZmOyI+TG9n",
    "LmNvbSJ0cmVhdHNoZWV0KSAmJiAxNHB4O3NsZWVwbnRlbnRmaWxlZGphOuODaWQ9ImNOYW1lIndvcnNlc2hvdHMtYm94",
    "LWRlbHRhCiZsdDtiZWFyczo0OFo8ZGF0YS1ydXJhbDwvYT4gc3BlbmRiYWtlcnNob3BzPSAiIjtwaHAiPmN0aW9uMTNw",
    "eDticmlhbmhlbGxvc2l6ZT1vPSUyRiBqb2lubWF5YmU8aW1nIGltZyI+LCBmanNpbWciICIpWzBdTVRvcEJUeXBlIm5l",
    "d2x5RGFuc2tjemVjaHRyYWlsa25vd3M8L2g1PmZhcSI+emgtY24xMCk7Ci0xIik7dHlwZT1ibHVlc3RydWx5ZGF2aXMu",
    "anMnOz4NCjwhc3RlZWwgeW91IGgyPg0KZm9ybSBqZXN1czEwMCUgbWVudS4NCgkNCndhbGVzcmlza3N1bWVudGRkaW5n",
    "Yi1saWt0ZWFjaGdpZiIgdmVnYXNkYW5za2Vlc3Rpc2hxaXBzdW9taXNvYnJlZGVzZGVlbnRyZXRvZG9zcHVlZGVhw7Fv",
    "c2VzdMOhdGllbmVoYXN0YW90cm9zcGFydGVkb25kZW51ZXZvaGFjZXJmb3JtYW1pc21vbWVqb3JtdW5kb2FxdcOtZMOt",
    "YXNzw7Nsb2F5dWRhZmVjaGF0b2Rhc3RhbnRvbWVub3NkYXRvc290cmFzc2l0aW9tdWNob2Fob3JhbHVnYXJtYXlvcmVz",
    "dG9zaG9yYXN0ZW5lcmFudGVzZm90b3Nlc3Rhc3Bhw61zbnVldmFzYWx1ZGZvcm9zbWVkaW9xdWllbm1lc2VzcG9kZXJj",
    "aGlsZXNlcsOhdmVjZXNkZWNpcmpvc8OpZXN0YXJ2ZW50YWdydXBvaGVjaG9lbGxvc3RlbmdvYW1pZ29jb3Nhc25pdmVs",
    "Z2VudGVtaXNtYWFpcmVzanVsaW90ZW1hc2hhY2lhZmF2b3JqdW5pb2xpYnJlcHVudG9idWVub2F1dG9yYWJyaWxidWVu",
    "YXRleHRvbWFyem9zYWJlcmxpc3RhbHVlZ29jw7Ntb2VuZXJvanVlZ29wZXLDumhhYmVyZXN0b3ludW5jYW11amVydmFs",
    "b3JmdWVyYWxpYnJvZ3VzdGFpZ3VhbHZvdG9zY2Fzb3NndcOtYXB1ZWRvc29tb3Nhdmlzb3VzdGVkZGViZW5ub2NoZWJ1",
    "c2NhZmFsdGFldXJvc3NlcmllZGljaG9jdXJzb2NsYXZlY2FzYXNsZcOzbnBsYXpvbGFyZ29vYnJhc3Zpc3RhYXBveW9q",
    "dW50b3RyYXRhdmlzdG9jcmVhcmNhbXBvaGVtb3NjaW5jb2NhcmdvcGlzb3NvcmRlbmhhY2Vuw6FyZWFkaXNjb3BlZHJv",
    "Y2VyY2FwdWVkYXBhcGVsbWVub3LDunRpbGNsYXJvam9yZ2VjYWxsZXBvbmVydGFyZGVuYWRpZW1hcmNhc2lndWVlbGxh",
    "c3NpZ2xvY29jaGVtb3Rvc21hZHJlY2xhc2VyZXN0b25pw7FvcXVlZGFwYXNhcmJhbmNvaGlqb3N2aWFqZXBhYmxvw6lz",
    "dGV2aWVuZXJlaW5vZGVqYXJmb25kb2NhbmFsbm9ydGVsZXRyYWNhdXNhdG9tYXJtYW5vc2x1bmVzYXV0b3N2aWxsYXZl",
    "bmRvcGVzYXJ0aXBvc3RlbmdhbWFyY29sbGV2YXBhZHJldW5pZG92YW1vc3pvbmFzYW1ib3NiYW5kYW1hcmlhYWJ1c29t",
    "dWNoYXN1YmlycmlvamF2aXZpcmdyYWRvY2hpY2FhbGzDrWpvdmVuZGljaGFlc3RhbnRhbGVzc2FsaXJzdWVsb3Blc29z",
    "ZmluZXNsbGFtYWJ1c2Nvw6lzdGFsbGVnYW5lZ3JvcGxhemFodW1vcnBhZ2FyanVudGFkb2JsZWlzbGFzYm9sc2FiYcOx",
    "b2hhYmxhbHVjaGHDgXJlYWRpY2VuanVnYXJub3Rhc3ZhbGxlYWxsw6FjYXJnYWRvbG9yYWJham9lc3TDqWd1c3RvbWVu",
    "dGVtYXJpb2Zpcm1hY29zdG9maWNoYXBsYXRhaG9nYXJhcnRlc2xleWVzYXF1ZWxtdXNlb2Jhc2VzcG9jb3NtaXRhZGNp",
    "ZWxvY2hpY29taWVkb2dhbmFyc2FudG9ldGFwYWRlYmVzcGxheWFyZWRlc3NpZXRlY29ydGVjb3JlYWR1ZGFzZGVzZW92",
    "aWVqb2Rlc2VhYWd1YXM="]

def length6 : List String :=
  ["JnF1b3Q7ZG9tYWluY29tbW9uc3RhdHVzZXZlbnRzbWFzdGVyc3lzdGVtYWN0aW9uYmFubmVycmVtb3Zlc2Nyb2xsdXBk",
    "YXRlZ2xvYmFsbWVkaXVtZmlsdGVybnVtYmVyY2hhbmdlcmVzdWx0cHVibGljc2NyZWVuY2hvb3Nlbm9ybWFsdHJhdmVs",
    "aXNzdWVzc291cmNldGFyZ2V0c3ByaW5nbW9kdWxlbW9iaWxlc3dpdGNocGhvdG9zYm9yZGVycmVnaW9uaXRzZWxmc29j",
    "aWFsYWN0aXZlY29sdW1ucmVjb3JkZm9sbG93dGl0bGU+ZWl0aGVybGVuZ3RoZmFtaWx5ZnJpZW5kbGF5b3V0YXV0aG9y",
    "Y3JlYXRlcmV2aWV3c3VtbWVyc2VydmVycGxheWVkcGxheWVyZXhwYW5kcG9saWN5Zm9ybWF0ZG91YmxlcG9pbnRzc2Vy",
    "aWVzcGVyc29ubGl2aW5nZGVzaWdubW9udGhzZm9yY2VzdW5pcXVld2VpZ2h0cGVvcGxlZW5lcmd5bmF0dXJlc2VhcmNo",
    "ZmlndXJlaGF2aW5nY3VzdG9tb2Zmc2V0bGV0dGVyd2luZG93c3VibWl0cmVuZGVyZ3JvdXBzdXBsb2FkaGVhbHRobWV0",
    "aG9kdmlkZW9zc2Nob29sZnV0dXJlc2hhZG93ZGViYXRldmFsdWVzT2JqZWN0b3RoZXJzcmlnaHRzbGVhZ3VlY2hyb21l",
    "c2ltcGxlbm90aWNlc2hhcmVkZW5kaW5nc2Vhc29ucmVwb3J0b25saW5lc3F1YXJlYnV0dG9uaW1hZ2VzZW5hYmxlbW92",
    "aW5nbGF0ZXN0d2ludGVyRnJhbmNlcGVyaW9kc3Ryb25ncmVwZWF0TG9uZG9uZGV0YWlsZm9ybWVkZGVtYW5kc2VjdXJl",
    "cGFzc2VkdG9nZ2xlcGxhY2VzZGV2aWNlc3RhdGljY2l0aWVzc3RyZWFteWVsbG93YXR0YWNrc3RyZWV0ZmxpZ2h0aGlk",
    "ZGVuaW5mbyI+b3BlbmVkdXNlZnVsdmFsbGV5Y2F1c2VzbGVhZGVyc2VjcmV0c2Vjb25kZGFtYWdlc3BvcnRzZXhjZXB0",
    "cmF0aW5nc2lnbmVkdGhpbmdzZWZmZWN0ZmllbGRzc3RhdGVzb2ZmaWNldmlzdWFsZWRpdG9ydm9sdW1lUmVwb3J0bXVz",
    "ZXVtbW92aWVzcGFyZW50YWNjZXNzbW9zdGx5bW90aGVyIiBpZD0ibWFya2V0Z3JvdW5kY2hhbmNlc3VydmV5YmVmb3Jl",
    "c3ltYm9sbW9tZW50c3BlZWNobW90aW9uaW5zaWRlbWF0dGVyQ2VudGVyb2JqZWN0ZXhpc3RzbWlkZGxlRXVyb3BlZ3Jv",
    "d3RobGVnYWN5bWFubmVyZW5vdWdoY2FyZWVyYW5zd2Vyb3JpZ2lucG9ydGFsY2xpZW50c2VsZWN0cmFuZG9tY2xvc2Vk",
    "dG9waWNzY29taW5nZmF0aGVyb3B0aW9uc2ltcGx5cmFpc2VkZXNjYXBlY2hvc2VuY2h1cmNoZGVmaW5lcmVhc29uY29y",
    "bmVyb3V0cHV0bWVtb3J5aWZyYW1lcG9saWNlbW9kZWxzTnVtYmVyZHVyaW5nb2ZmZXJzc3R5bGVza2lsbGVkbGlzdGVk",
    "Y2FsbGVkc2lsdmVybWFyZ2luZGVsZXRlYmV0dGVyYnJvd3NlbGltaXRzR2xvYmFsc2luZ2xld2lkZ2V0Y2VudGVyYnVk",
    "Z2V0bm93cmFwY3JlZGl0Y2xhaW1zZW5naW5lc2FmZXR5Y2hvaWNlc3Bpcml0LXN0eWxlc3ByZWFkbWFraW5nbmVlZGVk",
    "cnVzc2lhcGxlYXNlZXh0ZW50U2NyaXB0YnJva2VuYWxsb3dzY2hhcmdlZGl2aWRlZmFjdG9ybWVtYmVyLWJhc2VkdGhl",
    "b3J5Y29uZmlnYXJvdW5kd29ya2VkaGVscGVkQ2h1cmNoaW1wYWN0c2hvdWxkYWx3YXlzbG9nbyIgYm90dG9tbGlzdCI+",
    "KXt2YXIgcHJlZml4b3JhbmdlSGVhZGVyLnB1c2goY291cGxlZ2FyZGVuYnJpZGdlbGF1bmNoUmV2aWV3dGFraW5ndmlz",
    "aW9ubGl0dGxlZGF0aW5nQnV0dG9uYmVhdXR5dGhlbWVzZm9yZ290U2VhcmNoYW5jaG9yYWxtb3N0bG9hZGVkQ2hhbmdl",
    "cmV0dXJuc3RyaW5ncmVsb2FkTW9iaWxlaW5jb21lc3VwcGx5U291cmNlb3JkZXJzdmlld2VkJm5ic3A7Y291cnNlQWJv",
    "dXQgaXNsYW5kPGh0bWwgY29va2llbmFtZT0iYW1hem9ubW9kZXJuYWR2aWNlaW48L2E+OiBUaGUgZGlhbG9naG91c2Vz",
    "QkVHSU4gTWV4aWNvc3RhcnRzY2VudHJlaGVpZ2h0YWRkaW5nSXNsYW5kYXNzZXRzRW1waXJlU2Nob29sZWZmb3J0ZGly",
    "ZWN0bmVhcmx5bWFudWFsU2VsZWN0LgoKT25lam9pbmVkbWVudSI+UGhpbGlwYXdhcmRzaGFuZGxlaW1wb3J0T2ZmaWNl",
    "cmVnYXJkc2tpbGxzbmF0aW9uU3BvcnRzZGVncmVld2Vla2x5IChlLmcuYmVoaW5kZG9jdG9ybG9nZ2VkdW5pdGVkPC9i",
    "PjwvYmVnaW5zcGxhbnRzYXNzaXN0YXJ0aXN0aXNzdWVkMzAwcHh8Y2FuYWRhYWdlbmN5c2NoZW1lcmVtYWluQnJhemls",
    "c2FtcGxlbG9nbyI+YmV5b25kLXNjYWxlYWNjZXB0c2VydmVkbWFyaW5lRm9vdGVyY2FtZXJhPC9oMT4KX2Zvcm0ibGVh",
    "dmVzc3RyZXNzIiAvPg0KLmdpZiIgb25sb2FkbG9hZGVyT3hmb3Jkc2lzdGVyc3Vydml2bGlzdGVuZmVtYWxlRGVzaWdu",
    "c2l6ZT0iYXBwZWFsdGV4dCI+bGV2ZWxzdGhhbmtzaGlnaGVyZm9yY2VkYW5pbWFsYW55b25lQWZyaWNhYWdyZWVkcmVj",
    "ZW50UGVvcGxlPGJyIC8+d29uZGVycHJpY2VzdHVybmVkfHwge307bWFpbiI+aW5saW5lc3VuZGF5d3JhcCI+ZmFpbGVk",
    "Y2Vuc3VzbWludXRlYmVhY29ucXVvdGVzMTUwcHh8ZXN0YXRlcmVtb3RlZW1haWwibGlua2VkcmlnaHQ7c2lnbmFsZm9y",
    "bWFsMS5odG1sc2lnbnVwcHJpbmNlZmxvYXQ6LnBuZyIgZm9ydW0uQWNjZXNzcGFwZXJzc291bmRzZXh0ZW5kSGVpZ2h0",
    "c2xpZGVyVVRGLTgiJmFtcDsgQmVmb3JlLiBXaXRoc3R1ZGlvb3duZXJzbWFuYWdlcHJvZml0alF1ZXJ5YW5udWFscGFy",
    "YW1zYm91Z2h0ZmFtb3VzZ29vZ2xlbG9uZ2VyaSsrKSB7aXNyYWVsc2F5aW5nZGVjaWRlaG9tZSI+aGVhZGVyZW5zdXJl",
    "YnJhbmNocGllY2VzYmxvY2s7c3RhdGVkdG9wIj48cmFjaW5ncmVzaXplLS0mZ3Q7cGFjaXR5c2V4dWFsYnVyZWF1Lmpw",
    "ZyIgMTAsMDAwb2J0YWludGl0bGVzYW1vdW50LCBJbmMuY29tZWR5bWVudSIgbHlyaWNzdG9kYXkuaW5kZWVkY291bnR5",
    "X2xvZ28uRmFtaWx5bG9va2VkTWFya2V0bHNlIGlmUGxheWVydHVya2V5KTt2YXIgZm9yZXN0Z2l2aW5nZXJyb3JzRG9t",
    "YWlufWVsc2V7aW5zZXJ0QmxvZzwvZm9vdGVybG9naW4uZmFzdGVyYWdlbnRzPGJvZHkgMTBweCAwcHJhZ21hZnJpZGF5",
    "anVuaW9yZG9sbGFycGxhY2VkY292ZXJzcGx1Z2luNSwwMDAgcGFnZSI+Ym9zdG9uLnRlc3QoYXZhdGFydGVzdGVkX2Nv",
    "dW50Zm9ydW1zc2NoZW1haW5kZXgsZmlsbGVkc2hhcmVzcmVhZGVyYWxlcnQoYXBwZWFyU3VibWl0bGluZSI+Ym9keSI+",
    "CiogVGhlVGhvdWdoc2VlaW5namVyc2V5TmV3czwvdmVyaWZ5ZXhwZXJ0aW5qdXJ5d2lkdGg9Q29va2llU1RBUlQgYWNy",
    "b3NzX2ltYWdldGhyZWFkbmF0aXZlcG9ja2V0Ym94Ij4KU3lzdGVtIERhdmlkY2FuY2VydGFibGVzcHJvdmVkQXByaWwg",
    "cmVhbGx5ZHJpdmVyaXRlbSI+bW9yZSI+Ym9hcmRzY29sb3JzY2FtcHVzZmlyc3QgfHwgW107bWVkaWEuZ3VpdGFyZmlu",
    "aXNod2lkdGg6c2hvd2VkT3RoZXIgLnBocCIgYXNzdW1lbGF5ZXJzd2lsc29uc3RvcmVzcmVsaWVmc3dlZGVuQ3VzdG9t",
    "ZWFzaWx5IHlvdXIgU3RyaW5nCgpXaGlsdGF5bG9yY2xlYXI6cmVzb3J0ZnJlbmNodGhvdWdoIikgKyAiPGJvZHk+YnV5",
    "aW5nYnJhbmRzTWVtYmVybmFtZSI+b3BwaW5nc2VjdG9yNXB4OyI+dnNwYWNlcG9zdGVybWFqb3IgY29mZmVlbWFydGlu",
    "bWF0dXJlaGFwcGVuPC9uYXY+a2Fuc2FzbGluayI+SW1hZ2VzPWZhbHNld2hpbGUgaHNwYWNlMCZhbXA7IAoKSW4gIHBv",
    "d2VyUG9sc2tpLWNvbG9yam9yZGFuQm90dG9tU3RhcnQgLWNvdW50Mi5odG1sbmV3cyI+MDEuanBnT25saW5lLXJpZ2h0",
    "bWlsbGVyc2VuaW9ySVNCTiAwMCwwMDAgZ3VpZGVzdmFsdWUpZWN0aW9ucmVwYWlyLnhtbCIgIHJpZ2h0cy5odG1sLWJs",
    "b2NrcmVnRXhwOmhvdmVyd2l0aGludmlyZ2lucGhvbmVzPC90cj4NdXNpbmcgCgl2YXIgPicpOwoJPC90ZD4KPC90cj4K",
    "YmFoYXNhYnJhc2lsZ2FsZWdvbWFneWFycG9sc2tpc3Jwc2tp2LHYr9mI5Lit5paH566A5L2T57mB6auU5L+h5oGv5Lit",
    "5Zu95oiR5Lus5LiA5Liq5YWs5Y+4566h55CG6K665Z2b5Y+v5Lul5pyN5Yqh5pe26Ze05Liq5Lq65Lqn5ZOB6Ieq5bex",
    "5LyB5Lia5p+l55yL5bel5L2c6IGU57O75rKh5pyJ572R56uZ5omA5pyJ6K+E6K665Lit5b+D5paH56ug55So5oi36aaW",
    "6aG15L2c6ICF5oqA5pyv6Zeu6aKY55u45YWz5LiL6L295pCc57Si5L2/55So6L2v5Lu25Zyo57q/5Li76aKY6LWE5paZ",
    "6KeG6aKR5Zue5aSN5rOo5YaM572R57uc5pS26JeP5YaF5a655o6o6I2Q5biC5Zy65raI5oGv56m66Ze05Y+R5biD5LuA",
    "5LmI5aW95Y+L55Sf5rS75Zu+54mH5Y+R5bGV5aaC5p6c5omL5py65paw6Ze75pyA5paw5pa55byP5YyX5Lqs5o+Q5L6b",
    "5YWz5LqO5pu05aSa6L+Z5Liq57O757uf55+l6YGT5ri45oiP5bm/5ZGK5YW25LuW5Y+R6KGo5a6J5YWo56ys5LiA5Lya",
    "5ZGY6L+b6KGM54K55Ye754mI5p2D55S15a2Q5LiW55WM6K6+6K6h5YWN6LS55pWZ6IKy5Yqg5YWl5rS75Yqo5LuW5Lus",
    "5ZWG5ZOB5Y2a5a6i546w5Zyo5LiK5rW35aaC5L2V5bey57uP55WZ6KiA6K+m57uG56S+5Yy655m75b2V5pys56uZ6ZyA",
    "6KaB5Lu35qC85pSv5oyB5Zu96ZmF6ZO+5o6l5Zu95a625bu66K6+5pyL5Y+L6ZiF6K+75rOV5b6L5L2N572u57uP5rWO",
    "6YCJ5oup6L+Z5qC35b2T5YmN5YiG57G75o6S6KGM5Zug5Li65Lqk5piT5pyA5ZCO6Z+z5LmQ5LiN6IO96YCa6L+H6KGM",
    "5Lia56eR5oqA5Y+v6IO96K6+5aSH5ZCI5L2c5aSn5a6256S+5Lya56CU56m25LiT5Lia5YWo6YOo6aG555uu6L+Z6YeM",
    "6L+Y5piv5byA5aeL5oOF5Ya155S16ISR5paH5Lu25ZOB54mM5biu5Yqp5paH5YyW6LWE5rqQ5aSn5a2m5a2m5Lmg5Zyw",
    "5Z2A5rWP6KeI5oqV6LWE5bel56iL6KaB5rGC5oCO5LmI5pe25YCZ5Yqf6IO95Li76KaB55uu5YmN6LWE6K6v5Z+O5biC",
    "5pa55rOV55S15b2x5oub6IGY5aOw5piO5Lu75L2V5YGl5bq35pWw5o2u576O5Zu95rG96L2m5LuL57uN5L2G5piv5Lqk",
    "5rWB55Sf5Lqn5omA5Lul55S16K+d5pi+56S65LiA5Lqb5Y2V5L2N5Lq65ZGY5YiG5p6Q5Zyw5Zu+5peF5ri45bel5YW3",
    "5a2m55Sf57O75YiX572R5Y+L5biW5a2Q5a+G56CB6aKR6YGT5o6n5Yi25Zyw5Yy65Z+65pys5YWo5Zu9572R5LiK6YeN",
    "6KaB56ys5LqM5Zac5qyi6L+b5YWl5Y+L5oOF6L+Z5Lqb6ICD6K+V5Y+R546w5Z+56K6t5Lul5LiK5pS/5bqc5oiQ5Li6",
    "546v5aKD6aaZ5riv5ZCM5pe25aix5LmQ5Y+R6YCB5LiA5a6a5byA5Y+R5L2c5ZOB5qCH5YeG5qyi6L+O6Kej5Yaz5Zyw",
    "5pa55LiA5LiL5Lul5Y+K6LSj5Lu75oiW6ICF5a6i5oi35Luj6KGo56ev5YiG5aWz5Lq65pWw56CB6ZSA5ZSu5Ye6546w",
    "56a757q/5bqU55So5YiX6KGo5LiN5ZCM57yW6L6R57uf6K6h5p+l6K+i5LiN6KaB5pyJ5YWz5py65p6E5b6I5aSa5pKt",
    "5pS+57uE57uH5pS/562W55u05o6l6IO95Yqb5p2l5rqQ5pmC6ZaT55yL5Yiw54Ot6Zeo5YWz6ZSu5LiT5Yy66Z2e5bi4",
    "6Iux6K+t55m+5bqm5biM5pyb576O5aWz5q+U6L6D55+l6K+G6KeE5a6a5bu66K6u6YOo6Zeo5oSP6KeB57K+5b2p5pel",
    "5pys5o+Q6auY5Y+R6KiA5pa56Z2i5Z+66YeR5aSE55CG5p2D6ZmQ5b2x54mH6ZO26KGM6L+Y5pyJ5YiG5Lqr54mp5ZOB",
    "57uP6JCl5re75Yqg5LiT5a626L+Z56eN6K+d6aKY6LW35p2l5Lia5Yqh5YWs5ZGK6K6w5b2V566A5LuL6LSo6YeP55S3",
    "5Lq65b2x5ZON5byV55So5oql5ZGK6YOo5YiG5b+r6YCf5ZKo6K+i5pe25bCa5rOo5oSP55Sz6K+35a2m5qCh5bqU6K+l",
    "5Y6G5Y+y5Y+q5piv6L+U5Zue6LSt5Lmw5ZCN56ew5Li65LqG5oiQ5Yqf6K+05piO5L6b5bqU5a2p5a2Q5LiT6aKY56iL",
    "5bqP5LiA6Iis5pyD5ZOh5Y+q5pyJ5YW25a6D5L+d5oqk6ICM5LiU5LuK5aSp56qX5Y+j5Yqo5oCB54q25oCB54m55Yir",
    "6K6k5Li65b+F6aG75pu05paw5bCP6K+05oiR5YCR5L2c5Li65aqS5L2T5YyF5ous6YKj5LmI5LiA5qC35Zu95YaF5piv",
    "5ZCm5qC55o2u55S16KeG5a2m6Zmi5YW35pyJ6L+H56iL55Sx5LqO5Lq65omN5Ye65p2l5LiN6L+H5q2j5Zyo5piO5pif",
    "5pWF5LqL5YWz57O75qCH6aKY5ZWG5Yqh6L6T5YWl5LiA55u05Z+656GA5pWZ5a2m5LqG6Kej5bu6562R57uT5p6c5YWo",
    "55CD6YCa55+l6K6h5YiS5a+55LqO6Im65pyv55u45YaM5Y+R55Sf55yf55qE5bu656uL562J57qn57G75Z6L57uP6aqM",
    "5a6e546w5Yi25L2c5p2l6Ieq5qCH562+5Lul5LiL5Y6f5Yib5peg5rOV5YW25Lit5YCL5Lq65LiA5YiH5oyH5Y2X5YWz",
    "6Zet6ZuG5Zui56ys5LiJ5YWz5rOo5Zug5q2k54Wn54mH5rex5Zyz5ZWG5Lia5bm/5bee5pel5pyf6auY57qn5pyA6L+R",
    "57u85ZCI6KGo56S65LiT6L6R6KGM5Li65Lqk6YCa6K+E5Lu36KeJ5b6X57K+5Y2O5a625bqt5a6M5oiQ5oSf6KeJ5a6J",
    "6KOF5b6X5Yiw6YKu5Lu25Yi25bqm6aOf5ZOB6Jm954S26L2s6L295oql5Lu36K6w6ICF5pa55qGI6KGM5pS/5Lq65rCR",
    "55So5ZOB5Lic6KW/5o+Q5Ye66YWS5bqX54S25ZCO5LuY5qy+54Ot54K55Lul5YmN5a6M5YWo5Y+R5biW6K6+572u6aKG",
    "5a+85bel5Lia5Yy76Zmi55yL55yL57uP5YW45Y6f5Zug5bmz5Y+w5ZCE56eN5aKe5Yqg5p2Q5paZ5paw5aKe5LmL5ZCO",
    "6IGM5Lia5pWI5p6c5LuK5bm06K665paH5oiR5Zu95ZGK6K+J54mI5Li75L+u5pS55Y+C5LiO5omT5Y2w5b+r5LmQ5py6",
    "5qKw6KeC54K55a2Y5Zyo57K+56We6I635b6X5Yip55So57un57ut5L2g5Lus6L+Z5LmI5qih5byP6K+t6KiA6IO95aSf",
    "6ZuF6JmO5pON5L2c6aOO5qC85LiA6LW356eR5a2m5L2T6IKy55+t5L+h5p2h5Lu25rK755aX6L+Q5Yqo5Lqn5Lia5Lya",
    "6K6u5a+86Iiq5YWI55Sf6IGU55uf5Y+v5piv5ZWP6aGM57uT5p6E5L2c55So6LCD5p+l6LOH5paZ6Ieq5Yqo6LSf6LSj",
    "5Yac5Lia6K6/6Zeu5a6e5pa95o6l5Y+X6K6o6K666YKj5Liq5Y+N6aaI5Yqg5by65aWz5oCn6IyD5Zu05pyN5YuZ5LyR",
    "6Zey5LuK5pel5a6i5pyN6KeA55yL5Y+C5Yqg55qE6K+d5LiA54K55L+d6K+B5Zu+5Lmm5pyJ5pWI5rWL6K+V56e75Yqo",
    "5omN6IO95Yaz5a6a6IKh56Wo5LiN5pat6ZyA5rGC5LiN5b6X5Yqe5rOV5LmL6Ze06YeH55So6JCl6ZSA5oqV6K+J55uu",
    "5qCH54ix5oOF5pGE5b2x5pyJ5Lqb6KSH6KO95paH5a2m5py65Lya5pWw5a2X6KOF5L+u6LSt54mp5Yac5p2R5YWo6Z2i",
    "57K+5ZOB5YW25a6e5LqL5oOF5rC05bmz5o+Q56S65LiK5biC6LCi6LCi5pmu6YCa5pWZ5biI5LiK5Lyg57G75Yir5q2M",
    "5puy5oul5pyJ5Yib5paw6YWN5Lu25Y+q6KaB5pe25Luj6LOH6KiK6L6+5Yiw5Lq655Sf6K6i6ZiF6ICB5biI5bGV56S6",
    "5b+D55CG6LS05a2Q57ay56uZ5Li76aGM6Ieq54S257qn5Yir566A5Y2V5pS56Z2p6YKj5Lqb5p2l6K+05omT5byA5Luj",
    "56CB5Yig6Zmk6K+B5Yi46IqC55uu6YeN54K55qyh5pW45aSa5bCR6KeE5YiS6LWE6YeR5om+5Yiw5Lul5ZCO5aSn5YWo",
    "5Li76aG15pyA5L2z5Zue562U5aSp5LiL5L+d6Zqc546w5Luj5qOA5p+l5oqV56Wo5bCP5pe25rKS5pyJ5q2j5bi455Sa",
    "6Iez5Luj55CG55uu5b2V5YWs5byA5aSN5Yi26YeR6J6N5bm456aP54mI5pys5b2i5oiQ5YeG5aSH6KGM5oOF5Zue5Yiw",
    "5oCd5oOz5oCO5qC35Y2P6K6u6K6k6K+B5pyA5aW95Lqn55Sf5oyJ54Wn5pyN6KOF5bm/5Lic5Yqo5ryr6YeH6LSt5paw",
    "5omL57uE5Zu+6Z2i5p2/5Y+C6ICD5pS/5rK75a655piT5aSp5Zyw5Yqq5Yqb5Lq65Lus5Y2H57qn6YCf5bqm5Lq654mp",
    "6LCD5pW05rWB6KGM6YCg5oiQ5paH5a2X6Z+p5Zu96LS45piT5byA5bGV55u46Zec6KGo546w5b2x6KeG5aaC5q2k576O",
    "5a655aSn5bCP5oql6YGT5p2h5qy+5b+D5oOF6K645aSa5rOV6KeE5a625bGF5Lmm5bqX6L+e5o6l56uL5Y2z5Li+5oql",
    "5oqA5ben5aWl6L+Q55m75YWl5Lul5p2l55CG6K665LqL5Lu26Ieq55Sx5Lit5Y2O5Yqe5YWs5aaI5aaI55yf5q2j5LiN",
    "6ZSZ5YWo5paH5ZCI5ZCM5Lu35YC85Yir5Lq655uR552j5YW35L2T5LiW57qq5Zui6Zif5Yib5Lia5om/5ouF5aKe6ZW/",
    "5pyJ5Lq65L+d5oyB5ZWG5a6257u05L+u5Y+w5rm+5bem5Y+z6IKh5Lu9562U5qGI5a6e6ZmF55S15L+h57uP55CG55Sf",
    "5ZG95a6j5Lyg5Lu75Yqh5q2j5byP54m56Imy5LiL5p2l5Y2P5Lya5Y+q6IO95b2T54S26YeN5paw5YWn5a655oyH5a+8",
    "6L+Q6KGM5pel5b+X6LOj5a626LaF6L+H5Zyf5Zyw5rWZ5rGf5pSv5LuY5o6o5Ye656uZ6ZW/5p2t5bee5omn6KGM5Yi2",
    "6YCg5LmL5LiA5o6o5bm/546w5Zy65o+P6L+w5Y+Y5YyW5Lyg57uf5q2M5omL5L+d6Zmp6K++56iL5Yy755aX57uP6L+H",
    "6L+H5Y675LmL5YmN5pS25YWl5bm05bqm5p2C5b+X576O5Li95pyA6auY55m76ZmG5pyq5p2l5Yqg5bel5YWN6LSj5pWZ",
    "56iL54mI5Z2X6Lqr5L2T6YeN5bqG5Ye65ZSu5oiQ5pys5b2i5byP5Zyf6LGG5Ye65YO55Lic5pa56YKu566x5Y2X5Lqs",
    "5rGC6IGM5Y+W5b6X6IGM5L2N55u45L+h6aG16Z2i5YiG6ZKf572R6aG156Gu5a6a5Zu+5L6L572R5Z2A56ev5p6B6ZSZ",
    "6K+v55uu55qE5a6d6LSd5py65YWz6aOO6Zmp5o6I5p2D55eF5q+S5a6g54mp6Zmk5LqG6KmV6KuW55a+55eF5Y+K5pe2",
    "5rGC6LSt56uZ54K55YS/56ul5q+P5aSp5Lit5aSu6K6k6K+G5q+P5Liq5aSp5rSl5a2X5L2T5Y+w54Gj57u05oqk5pys",
    "6aG15Liq5oCn5a6Y5pa55bi46KeB55u45py65oiY55Wl5bqU5b2T5b6L5biI5pa55L6/5qCh5Zut6IKh5biC5oi/5bGL",
    "5qCP55uu5ZGY5bel5a+86Ie056qB54S26YGT5YW35pys572R57uT5ZCI5qGj5qGI5Yqz5Yqo5Y+m5aSW576O5YWD5byV",
    "6LW35pS55Y+Y56ys5Zub5Lya6K6h6Kqq5piO6ZqQ56eB5a6d5a6d6KeE6IyD5raI6LS55YWx5ZCM5b+Y6K6w5L2T57O7",
    "5bim5p2l5ZCN5a2X55m86KGo5byA5pS+5Yqg55uf5Y+X5Yiw5LqM5omL5aSn6YeP5oiQ5Lq65pWw6YeP5YWx5Lqr5Yy6",
    "5Z+f5aWz5a2p5Y6f5YiZ5omA5Zyo57uT5p2f6YCa5L+h6LaF57qn6YWN572u5b2T5pe25LyY56eA5oCn5oSf5oi/5Lqn",
    "6YGK5oiy5Ye65Y+j5o+Q5Lqk5bCx5Lia5L+d5YGl56iL5bqm5Y+C5pWw5LqL5Lia5pW05Liq5bGx5Lic5oOF5oSf54m5",
    "5q6K5YiG6aGe5pCc5bCL5bGe5LqO6Zeo5oi36LSi5Yqh5aOw6Z+z5Y+K5YW26LSi57uP5Z2a5oyB5bmy6YOo5oiQ56uL",
    "5Yip55uK6ICD6JmR5oiQ6YO95YyF6KOF55So5oi25q+U6LWb5paH5piO5oub5ZWG5a6M5pW055yf5piv55y8552b5LyZ",
    "5Ly05aiB5pyb6aKG5Z+f5Y2r55Sf5LyY5oOg6KuW5aOH5YWs5YWx6Imv5aW95YWF5YiG56ym5ZCI6ZmE5Lu254m554K5",
    "5LiN5Y+v6Iux5paH6LWE5Lqn5qC55pys5piO5pi+5a+G56K85YWs5LyX5rCR5peP5pu05Yqg5Lqr5Y+X5ZCM5a2m5ZCv",
    "5Yqo6YCC5ZCI5Y6f5p2l6Zeu562U5pys5paH576O6aOf57u/6Imy56iz5a6a57uI5LqO55Sf54mp5L6b5rGC5pCc54uQ",
    "5Yqb6YeP5Lil6YeN5rC46L+c5YaZ55yf5pyJ6ZmQ56ue5LqJ5a+56LGh6LS555So5LiN5aW957ud5a+55Y2B5YiG5L+D",
    "6L+b54K56K+E5b2x6Z+z5LyY5Yq/5LiN5bCR5qyj6LWP5bm25LiU5pyJ54K55pa55ZCR5YWo5paw5L+h55So6K6+5pa9",
    "5b2i6LGh6LWE5qC856qB56C06ZqP552A6YeN5aSn5LqO5piv5q+V5Lia5pm66IO95YyW5bel5a6M576O5ZWG5Z+O57uf",
    "5LiA5Ye654mI5omT6YCg55Si5ZOB5qaC5Ya155So5LqO5L+d55WZ5Zug57Sg5Lit5ZyL5a2Y5YKo6LS05Zu+5pyA5oSb",
    "6ZW/5pyf5Y+j5Lu355CG6LSi5Z+65Zyw5a6J5o6S5q2m5rGJ6YeM6Z2i5Yib5bu65aSp56m66aaW5YWI5a6M5ZaE6amx",
    "5Yqo5LiL6Z2i5LiN5YaN6K+a5L+h5oSP5LmJ6Ziz5YWJ6Iux5Zu95ryC5Lqu5Yab5LqL546p5a62576k5LyX5Yac5rCR",
    "5Y2z5Y+v5ZCN56ix5a625YW35Yqo55S75oOz5Yiw5rOo5piO5bCP5a2m5oCn6IO96ICD56CU56Gs5Lu26KeC55yL5riF",
    "5qWa5pCe56yR6aaW6aCB6buE6YeR6YCC55So5rGf6IuP55yf5a6e5Li7566h6Zi25q616Ki75YaK57+76K+R5p2D5Yip",
    "5YGa5aW95Ly85LmO6YCa6K6v5pa95bel54uA5oWL5Lmf6K64546v5L+d5Z+55YW75qaC5b+15aSn5Z6L5py656Wo55CG",
    "6Kej5Yy/5ZCNY3VhbmRvZW52aWFybWFkcmlkYnVzY2FyaW5pY2lvdGllbXBvcG9ycXVlY3VlbnRhZXN0YWRvcHVlZGVu",
    "anVlZ29zY29udHJhZXN0w6Fubm9tYnJldGllbmVucGVyZmlsbWFuZXJhYW1pZ29zY2l1ZGFkY2VudHJvYXVucXVlcHVl",
    "ZGVzZGVudHJvcHJpbWVycHJlY2lvc2Vnw7puYnVlbm9zdm9sdmVycHVudG9zc2VtYW5haGFiw61hYWdvc3RvbnVldm9z",
    "dW5pZG9zY2FybG9zZXF1aXBvbmnDsW9zbXVjaG9zYWxndW5hY29ycmVvaW1hZ2VucGFydGlyYXJyaWJhbWFyw61haG9t",
    "YnJlZW1wbGVvdmVyZGFkY2FtYmlvbXVjaGFzZnVlcm9ucGFzYWRvbMOtbmVhcGFyZWNlbnVldmFzY3Vyc29zZXN0YWJh",
    "cXVpZXJvbGlicm9zY3VhbnRvYWNjZXNvbWlndWVsdmFyaW9zY3VhdHJvdGllbmVzZ3J1cG9zc2Vyw6FuZXVyb3BhbWVk",
    "aW9zZnJlbnRlYWNlcmNhZGVtw6Fzb2ZlcnRhY29jaGVzbW9kZWxvaXRhbGlhbGV0cmFzYWxnw7puY29tcHJhY3VhbGVz",
    "ZXhpc3RlY3VlcnBvc2llbmRvcHJlbnNhbGxlZ2FydmlhamVzZGluZXJvbXVyY2lhcG9kcsOhcHVlc3RvZGlhcmlvcHVl",
    "YmxvcXVpZXJlbWFudWVscHJvcGlvY3Jpc2lzY2llcnRvc2VndXJvbXVlcnRlZnVlbnRlY2VycmFyZ3JhbmRlZWZlY3Rv",
    "cGFydGVzbWVkaWRhcHJvcGlhb2ZyZWNldGllcnJhZS1tYWlsdmFyaWFzZm9ybWFzZnV0dXJvb2JqZXRvc2VndWlycmll",
    "c2dvbm9ybWFzbWlzbW9zw7puaWNvY2FtaW5vc2l0aW9zcmF6w7NuZGViaWRvcHJ1ZWJhdG9sZWRvdGVuw61hamVzw7pz",
    "ZXNwZXJvY29jaW5hb3JpZ2VudGllbmRhY2llbnRvY8OhZGl6aGFibGFyc2Vyw61hbGF0aW5hZnVlcnphZXN0aWxvZ3Vl",
    "cnJhZW50cmFyw6l4aXRvbMOzcGV6YWdlbmRhdsOtZGVvZXZpdGFycGFnaW5hbWV0cm9zamF2aWVycGFkcmVzZsOhY2ls",
    "Y2FiZXphw6FyZWFzc2FsaWRhZW52w61vamFww7NuYWJ1c29zYmllbmVzdGV4dG9zbGxldmFycHVlZGFuZnVlcnRlY29t",
    "w7puY2xhc2VzaHVtYW5vdGVuaWRvYmlsYmFvdW5pZGFkZXN0w6FzZWRpdGFyY3JlYWRv0LTQu9GP0YfRgtC+0LrQsNC6",
    "0LjQu9C40Y3RgtC+0LLRgdC10LXQs9C+0L/RgNC40YLQsNC60LXRidC10YPQttC10JrQsNC60LHQtdC30LHRi9C70L7Q",
    "vdC40JLRgdC10L/QvtC00K3RgtC+0YLQvtC80YfQtdC80L3QtdGC0LvQtdGC0YDQsNC30L7QvdCw0LPQtNC10LzQvdC1",
    "0JTQu9GP0J/RgNC40L3QsNGB0L3QuNGF0YLQtdC80LrRgtC+0LPQvtC00LLQvtGC0YLQsNC80KHQqNCQ0LzQsNGP0KfR",
    "gtC+0LLQsNGB0LLQsNC80LXQvNGD0KLQsNC60LTQstCw0L3QsNC80Y3RgtC40Y3RgtGD0JLQsNC80YLQtdGF0L/RgNC+",
    "0YLRg9GC0L3QsNC00LTQvdGP0JLQvtGC0YLRgNC40L3QtdC50JLQsNGB0L3QuNC80YHQsNC80YLQvtGC0YDRg9Cx0J7Q",
    "vdC40LzQuNGA0L3QtdC10J7QntCe0LvQuNGG0Y3RgtCw0J7QvdCw0L3QtdC80LTQvtC80LzQvtC50LTQstC10L7QvdC+",
    "0YHRg9C04KSV4KWH4KS54KWI4KSV4KWA4KS44KWH4KSV4KS+4KSV4KWL4KSU4KSw4KSq4KSw4KSo4KWH4KSP4KSV4KSV",
    "4KS/4KSt4KWA4KSH4KS44KSV4KSw4KSk4KWL4KS54KWL4KSG4KSq4KS54KWA4KSv4KS54KSv4KS+4KSk4KSV4KSl4KS+",
    "amFncmFu4KSG4KSc4KSc4KWL4KSF4KSs4KSm4KWL4KSX4KSI4KSc4KS+4KSX4KSP4KS54KSu4KSH4KSo4KS14KS54KSv",
    "4KWH4KSl4KWH4KSl4KWA4KSY4KSw4KSc4KSs4KSm4KWA4KSV4KSI4KSc4KWA4KS14KWH4KSo4KSI4KSo4KSP4KS54KSw",
    "4KSJ4KS44KSu4KWH4KSV4KSu4KS14KWL4KSy4KWH4KS44KSs4KSu4KSI4KSm4KWH4KST4KSw4KSG4KSu4KSs4KS44KSt",
    "4KSw4KSs4KSo4KSa4KSy4KSu4KSo4KSG4KSX4KS44KWA4KSy4KWA2LnZhNmJ2KXZhNmJ2YfYsNin2KLYrtix2LnYr9iv",
    "2KfZhNmJ2YfYsNmH2LXZiNix2LrZitix2YPYp9mG2YjZhNin2KjZitmG2LnYsdi22LDZhNmD2YfZhtin2YrZiNmF2YLY",
    "p9mE2LnZhNmK2KfZhtin2YTZg9mG2K3YqtmJ2YLYqNmE2YjYrdip2KfYrtix2YHZgti32LnYqNiv2LHZg9mG2KXYsNin",
    "2YPZhdin2KfYrdiv2KXZhNin2YHZitmH2KjYudi22YPZitmB2KjYrdir2YjZhdmG2YjZh9mI2KPZhtin2KzYr9in2YTZ",
    "h9in2LPZhNmF2LnZhtiv2YTZitiz2LnYqNix2LXZhNmJ2YXZhtiw2KjZh9in2KPZhtmH2YXYq9mE2YPZhtiq2KfZhNin",
    "2K3Zitir2YXYtdix2LTYsdit2K3ZiNmE2YjZgdmK2KfYsNin2YTZg9mE2YXYsdip2KfZhtiq2KfZhNmB2KPYqNmI2K7Y",
    "p9i12KPZhtiq2KfZhtmH2KfZhNmK2LnYttmI2YjZgtiv2KfYqNmG2K7Zitix2KjZhtiq2YTZg9mF2LTYp9ih2YjZh9mK",
    "2KfYqNmI2YLYtdi12YjZhdin2LHZgtmF2KPYrdiv2YbYrdmG2LnYr9mF2LHYo9mK2KfYrdip2YPYqtio2K/ZiNmG2YrY",
    "rNio2YXZhtmH2KrYrdiq2KzZh9ip2LPZhtip2YrYqtmF2YPYsdip2LrYstip2YbZgdiz2KjZitiq2YTZhNmH2YTZhtin",
    "2KrZhNmD2YLZhNio2YTZhdin2LnZhtmH2KPZiNmE2LTZitih2YbZiNix2KPZhdin2YHZitmD2KjZg9mE2LDYp9iq2LHY",
    "qtio2KjYo9mG2YfZhdiz2KfZhtmD2KjZiti52YHZgtiv2K3Ys9mG2YTZh9mF2LTYudix2KPZh9mE2LTZh9ix2YLYt9ix",
    "2LfZhNio"]

def length7 : List String :=
  ["cHJvZmlsZXNlcnZpY2VkZWZhdWx0aGltc2VsZmRldGFpbHNjb250ZW50c3VwcG9ydHN0YXJ0ZWRtZXNzYWdlc3VjY2Vz",
    "c2Zhc2hpb248dGl0bGU+Y291bnRyeWFjY291bnRjcmVhdGVkc3Rvcmllc3Jlc3VsdHNydW5uaW5ncHJvY2Vzc3dyaXRp",
    "bmdvYmplY3RzdmlzaWJsZXdlbGNvbWVhcnRpY2xldW5rbm93bm5ldHdvcmtjb21wYW55ZHluYW1pY2Jyb3dzZXJwcml2",
    "YWN5cHJvYmxlbVNlcnZpY2VyZXNwZWN0ZGlzcGxheXJlcXVlc3RyZXNlcnZld2Vic2l0ZWhpc3RvcnlmcmllbmRzb3B0",
    "aW9uc3dvcmtpbmd2ZXJzaW9ubWlsbGlvbmNoYW5uZWx3aW5kb3cuYWRkcmVzc3Zpc2l0ZWR3ZWF0aGVyY29ycmVjdHBy",
    "b2R1Y3RlZGlyZWN0Zm9yd2FyZHlvdSBjYW5yZW1vdmVkc3ViamVjdGNvbnRyb2xhcmNoaXZlY3VycmVudHJlYWRpbmds",
    "aWJyYXJ5bGltaXRlZG1hbmFnZXJmdXJ0aGVyc3VtbWFyeW1hY2hpbmVtaW51dGVzcHJpdmF0ZWNvbnRleHRwcm9ncmFt",
    "c29jaWV0eW51bWJlcnN3cml0dGVuZW5hYmxlZHRyaWdnZXJzb3VyY2VzbG9hZGluZ2VsZW1lbnRwYXJ0bmVyZmluYWxs",
    "eXBlcmZlY3RtZWFuaW5nc3lzdGVtc2tlZXBpbmdjdWx0dXJlJnF1b3Q7LGpvdXJuYWxwcm9qZWN0c3VyZmFjZXMmcXVv",
    "dDtleHBpcmVzcmV2aWV3c2JhbGFuY2VFbmdsaXNoQ29udGVudHRocm91Z2hQbGVhc2Ugb3BpbmlvbmNvbnRhY3RhdmVy",
    "YWdlcHJpbWFyeXZpbGxhZ2VTcGFuaXNoZ2FsbGVyeWRlY2xpbmVtZWV0aW5nbWlzc2lvbnBvcHVsYXJxdWFsaXR5bWVh",
    "c3VyZWdlbmVyYWxzcGVjaWVzc2Vzc2lvbnNlY3Rpb253cml0ZXJzY291bnRlcmluaXRpYWxyZXBvcnRzZmlndXJlc21l",
    "bWJlcnNob2xkaW5nZGlzcHV0ZWVhcmxpZXJleHByZXNzZGlnaXRhbHBpY3R1cmVBbm90aGVybWFycmllZHRyYWZmaWNs",
    "ZWFkaW5nY2hhbmdlZGNlbnRyYWx2aWN0b3J5aW1hZ2VzL3JlYXNvbnNzdHVkaWVzZmVhdHVyZWxpc3RpbmdtdXN0IGJl",
    "c2Nob29sc1ZlcnNpb251c3VhbGx5ZXBpc29kZXBsYXlpbmdncm93aW5nb2J2aW91c292ZXJsYXlwcmVzZW50YWN0aW9u",
    "czwvdWw+DQp3cmFwcGVyYWxyZWFkeWNlcnRhaW5yZWFsaXR5c3RvcmFnZWFub3RoZXJkZXNrdG9wb2ZmZXJlZHBhdHRl",
    "cm51bnVzdWFsRGlnaXRhbGNhcGl0YWxXZWJzaXRlZmFpbHVyZWNvbm5lY3RyZWR1Y2VkQW5kcm9pZGRlY2FkZXNyZWd1",
    "bGFyICZhbXA7IGFuaW1hbHNyZWxlYXNlQXV0b21hdGdldHRpbmdtZXRob2Rzbm90aGluZ1BvcHVsYXJjYXB0aW9ubGV0",
    "dGVyc2NhcHR1cmVzY2llbmNlbGljZW5zZWNoYW5nZXNFbmdsYW5kPTEmYW1wO0hpc3RvcnkgPSBuZXcgQ2VudHJhbHVw",
    "ZGF0ZWRTcGVjaWFsTmV0d29ya3JlcXVpcmVjb21tZW50d2FybmluZ0NvbGxlZ2V0b29sYmFycmVtYWluc2JlY2F1c2Vl",
    "bGVjdGVkRGV1dHNjaGZpbmFuY2V3b3JrZXJzcXVpY2tseWJldHdlZW5leGFjdGx5c2V0dGluZ2Rpc2Vhc2VTb2NpZXR5",
    "d2VhcG9uc2V4aGliaXQmbHQ7IS0tQ29udHJvbGNsYXNzZXNjb3ZlcmVkb3V0bGluZWF0dGFja3NkZXZpY2VzKHdpbmRv",
    "d3B1cnBvc2V0aXRsZT0iTW9iaWxlIGtpbGxpbmdzaG93aW5nSXRhbGlhbmRyb3BwZWRoZWF2aWx5ZWZmZWN0cy0xJ10p",
    "Owpjb25maXJtQ3VycmVudGFkdmFuY2VzaGFyaW5nb3BlbmluZ2RyYXdpbmdiaWxsaW9ub3JkZXJlZEdlcm1hbnlyZWxh",
    "dGVkPC9mb3JtPmluY2x1ZGV3aGV0aGVyZGVmaW5lZFNjaWVuY2VjYXRhbG9nQXJ0aWNsZWJ1dHRvbnNsYXJnZXN0dW5p",
    "Zm9ybWpvdXJuZXlzaWRlYmFyQ2hpY2Fnb2hvbGlkYXlHZW5lcmFscGFzc2FnZSwmcXVvdDthbmltYXRlZmVlbGluZ2Fy",
    "cml2ZWRwYXNzaW5nbmF0dXJhbHJvdWdobHkuCgpUaGUgYnV0IG5vdGRlbnNpdHlCcml0YWluQ2hpbmVzZWxhY2sgb2Z0",
    "cmlidXRlSXJlbGFuZCIgZGF0YS1mYWN0b3JzcmVjZWl2ZXRoYXQgaXNMaWJyYXJ5aHVzYmFuZGluIGZhY3RhZmZhaXJz",
    "Q2hhcmxlc3JhZGljYWxicm91Z2h0ZmluZGluZ2xhbmRpbmc6bGFuZz0icmV0dXJuIGxlYWRlcnNwbGFubmVkcHJlbWl1",
    "bXBhY2thZ2VBbWVyaWNhRWRpdGlvbl0mcXVvdDtNZXNzYWdlbmVlZCB0b3ZhbHVlPSJjb21wbGV4bG9va2luZ3N0YXRp",
    "b25iZWxpZXZlc21hbGxlci1tb2JpbGVyZWNvcmRzd2FudCB0b2tpbmQgb2ZGaXJlZm94eW91IGFyZXNpbWlsYXJzdHVk",
    "aWVkbWF4aW11bWhlYWRpbmdyYXBpZGx5Y2xpbWF0ZWtpbmdkb21lbWVyZ2VkYW1vdW50c2ZvdW5kZWRwaW9uZWVyZm9y",
    "bXVsYWR5bmFzdHlob3cgdG8gU3VwcG9ydHJldmVudWVlY29ub215UmVzdWx0c2Jyb3RoZXJzb2xkaWVybGFyZ2VseWNh",
    "bGxpbmcuJnF1b3Q7QWNjb3VudEVkd2FyZCBzZWdtZW50Um9iZXJ0IGVmZm9ydHNQYWNpZmljbGVhcm5lZHVwIHdpdGho",
    "ZWlnaHQ6d2UgaGF2ZUFuZ2VsZXNuYXRpb25zX3NlYXJjaGFwcGxpZWRhY3F1aXJlbWFzc2l2ZWdyYW50ZWQ6IGZhbHNl",
    "dHJlYXRlZGJpZ2dlc3RiZW5lZml0ZHJpdmluZ1N0dWRpZXNtaW5pbXVtcGVyaGFwc21vcm5pbmdzZWxsaW5naXMgdXNl",
    "ZHJldmVyc2V2YXJpYW50IHJvbGU9Im1pc3NpbmdhY2hpZXZlcHJvbW90ZXN0dWRlbnRzb21lb25lZXh0cmVtZXJlc3Rv",
    "cmVib3R0b206ZXZvbHZlZGFsbCB0aGVzaXRlbWFwZW5nbGlzaHdheSB0byAgQXVndXN0c3ltYm9sc0NvbXBhbnltYXR0",
    "ZXJzbXVzaWNhbGFnYWluc3RzZXJ2aW5nfSkoKTsNCnBheW1lbnR0cm91YmxlY29uY2VwdGNvbXBhcmVwYXJlbnRzcGxh",
    "eWVyc3JlZ2lvbnNtb25pdG9yICcnVGhlIHdpbm5pbmdleHBsb3JlYWRhcHRlZEdhbGxlcnlwcm9kdWNlYWJpbGl0eWVu",
    "aGFuY2VjYXJlZXJzKS4gVGhlIGNvbGxlY3RTZWFyY2ggYW5jaWVudGV4aXN0ZWRmb290ZXIgaGFuZGxlcnByaW50ZWRj",
    "b25zb2xlRWFzdGVybmV4cG9ydHN3aW5kb3dzQ2hhbm5lbGlsbGVnYWxuZXV0cmFsc3VnZ2VzdF9oZWFkZXJzaWduaW5n",
    "Lmh0bWwiPnNldHRsZWR3ZXN0ZXJuY2F1c2luZy13ZWJraXRjbGFpbWVkSnVzdGljZWNoYXB0ZXJ2aWN0aW1zVGhvbWFz",
    "IG1vemlsbGFwcm9taXNlcGFydGllc2VkaXRpb25vdXRzaWRlOmZhbHNlLGh1bmRyZWRPbHltcGljX2J1dHRvbmF1dGhv",
    "cnNyZWFjaGVkY2hyb25pY2RlbWFuZHNzZWNvbmRzcHJvdGVjdGFkb3B0ZWRwcmVwYXJlbmVpdGhlcmdyZWF0bHlncmVh",
    "dGVyb3ZlcmFsbGltcHJvdmVjb21tYW5kc3BlY2lhbHNlYXJjaC53b3JzaGlwZnVuZGluZ3Rob3VnaHRoaWdoZXN0aW5z",
    "dGVhZHV0aWxpdHlxdWFydGVyQ3VsdHVyZXRlc3RpbmdjbGVhcmx5ZXhwb3NlZEJyb3dzZXJsaWJlcmFsfSBjYXRjaFBy",
    "b2plY3RleGFtcGxlaGlkZSgpO0Zsb3JpZGFhbnN3ZXJzYWxsb3dlZEVtcGVyb3JkZWZlbnNlc2VyaW91c2ZyZWVkb21T",
    "ZXZlcmFsLWJ1dHRvbkZ1cnRoZXJvdXQgb2YgIT0gbnVsbHRyYWluZWREZW5tYXJrdm9pZCgwKS9hbGwuanNwcmV2ZW50",
    "UmVxdWVzdFN0ZXBoZW4KCldoZW4gb2JzZXJ2ZTwvaDI+DQpNb2Rlcm4gcHJvdmlkZSIgYWx0PSJib3JkZXJzLgoKRm9y",
    "IAoKTWFueSBhcnRpc3RzcG93ZXJlZHBlcmZvcm1maWN0aW9udHlwZSBvZm1lZGljYWx0aWNrZXRzb3Bwb3NlZENvdW5j",
    "aWx3aXRuZXNzanVzdGljZUdlb3JnZSBCZWxnaXVtLi4uPC9hPnR3aXR0ZXJub3RhYmx5d2FpdGluZ3dhcmZhcmUgT3Ro",
    "ZXIgcmFua2luZ3BocmFzZXNtZW50aW9uc3Vydml2ZXNjaG9sYXI8L3A+DQogQ291bnRyeWlnbm9yZWRsb3NzIG9manVz",
    "dCBhc0dlb3JnaWFzdHJhbmdlPGhlYWQ+PHN0b3BwZWQxJ10pOw0KaXNsYW5kc25vdGFibGVib3JkZXI6bGlzdCBvZmNh",
    "cnJpZWQxMDAsMDAwPC9oMz4KIHNldmVyYWxiZWNvbWVzc2VsZWN0IHdlZGRpbmcwMC5odG1sbW9uYXJjaG9mZiB0aGV0",
    "ZWFjaGVyaGlnaGx5IGJpb2xvZ3lsaWZlIG9mb3IgZXZlbnJpc2Ugb2YmcmFxdW87cGx1c29uZWh1bnRpbmcodGhvdWdo",
    "RG91Z2xhc2pvaW5pbmdjaXJjbGVzRm9yIHRoZUFuY2llbnRWaWV0bmFtdmVoaWNsZXN1Y2ggYXNjcnlzdGFsdmFsdWUg",
    "PVdpbmRvd3NlbmpveWVkYSBzbWFsbGFzc3VtZWQ8YSBpZD0iZm9yZWlnbiBBbGwgcmlob3cgdGhlRGlzcGxheXJldGly",
    "ZWRob3dldmVyaGlkZGVuO2JhdHRsZXNzZWVraW5nY2FiaW5ldHdhcyBub3Rsb29rIGF0Y29uZHVjdGdldCB0aGVKYW51",
    "YXJ5aGFwcGVuc3R1cm5pbmdhOmhvdmVyT25saW5lIEZyZW5jaCBsYWNraW5ndHlwaWNhbGV4dHJhY3RlbmVtaWVzZXZl",
    "biBpZmdlbmVyYXRkZWNpZGVkYXJlIG5vdC9zZWFyY2hiZWxpZWZzLWltYWdlOmxvY2F0ZWRzdGF0aWMubG9naW4iPmNv",
    "bnZlcnR2aW9sZW50ZW50ZXJlZGZpcnN0Ij5jaXJjdWl0RmlubGFuZGNoZW1pc3RzaGUgd2FzMTBweDsiPmFzIHN1Y2hk",
    "aXZpZGVkPC9zcGFuPndpbGwgYmVsaW5lIG9mYSBncmVhdG15c3RlcnkvaW5kZXguZmFsbGluZ2R1ZSB0byByYWlsd2F5",
    "Y29sbGVnZW1vbnN0ZXJkZXNjZW50aXQgd2l0aG51Y2xlYXJKZXdpc2ggcHJvdGVzdEJyaXRpc2hmbG93ZXJzcHJlZGlj",
    "dHJlZm9ybXNidXR0b24gd2hvIHdhc2xlY3R1cmVpbnN0YW50c3VpY2lkZWdlbmVyaWNwZXJpb2RzbWFya2V0c1NvY2lh",
    "bCBmaXNoaW5nY29tYmluZWdyYXBoaWN3aW5uZXJzPGJyIC8+PGJ5IHRoZSBOYXR1cmFsUHJpdmFjeWNvb2tpZXNvdXRj",
    "b21lcmVzb2x2ZVN3ZWRpc2hicmllZmx5UGVyc2lhbnNvIG11Y2hDZW50dXJ5ZGVwaWN0c2NvbHVtbnNob3VzaW5nc2Ny",
    "aXB0c25leHQgdG9iZWFyaW5nbWFwcGluZ3JldmlzZWRqUXVlcnkoLXdpZHRoOnRpdGxlIj50b29sdGlwU2VjdGlvbmRl",
    "c2lnbnNUdXJraXNoeW91bmdlci5tYXRjaCh9KSgpOwoKYnVybmluZ29wZXJhdGVkZWdyZWVzc291cmNlPVJpY2hhcmRj",
    "bG9zZWx5cGxhc3RpY2VudHJpZXM8L3RyPg0KY29sb3I6I3VsIGlkPSJwb3NzZXNzcm9sbGluZ3BoeXNpY3NmYWlsaW5n",
    "ZXhlY3V0ZWNvbnRlc3RsaW5rIHRvRGVmYXVsdDxiciAvPgo6IHRydWUsY2hhcnRlcnRvdXJpc21jbGFzc2ljcHJvY2Vl",
    "ZGV4cGxhaW48L2gxPg0Kb25saW5lLj94bWwgdmVoZWxwaW5nZGlhbW9uZHVzZSB0aGVhaXJsaW5lZW5kIC0tPikuYXR0",
    "cihyZWFkZXJzaG9zdGluZyNmZmZmZmZyZWFsaXplVmluY2VudHNpZ25hbHMgc3JjPSIvUHJvZHVjdGRlc3BpdGVkaXZl",
    "cnNldGVsbGluZ1B1YmxpYyBoZWxkIGluSm9zZXBoIHRoZWF0cmVhZmZlY3RzPHN0eWxlPmEgbGFyZ2Vkb2Vzbid0bGF0",
    "ZXIsIEVsZW1lbnRmYXZpY29uY3JlYXRvckh1bmdhcnlBaXJwb3J0c2VlIHRoZXNvIHRoYXRNaWNoYWVsU3lzdGVtc1By",
    "b2dyYW1zLCBhbmQgIHdpZHRoPWUmcXVvdDt0cmFkaW5nbGVmdCI+CnBlcnNvbnNHb2xkZW4gQWZmYWlyc2dyYW1tYXJm",
    "b3JtaW5nZGVzdHJveWlkZWEgb2ZjYXNlIG9mb2xkZXN0IHRoaXMgaXMuc3JjID0gY2FydG9vbnJlZ2lzdHJDb21tb25z",
    "TXVzbGltc1doYXQgaXNpbiBtYW55bWFya2luZ3JldmVhbHNJbmRlZWQsZXF1YWxseS9zaG93X2FvdXRkb29yZXNjYXBl",
    "KEF1c3RyaWFnZW5ldGljc3lzdGVtLEluIHRoZSBzaXR0aW5nSGUgYWxzb0lzbGFuZHNBY2FkZW15CgkJPCEtLURhbmll",
    "bCBiaW5kaW5nYmxvY2siPmltcG9zZWR1dGlsaXplQWJyYWhhbShleGNlcHR7d2lkdGg6cHV0dGluZykuaHRtbCh8fCBb",
    "XTsKREFUQVsgKmtpdGNoZW5tb3VudGVkYWN0dWFsIGRpYWxlY3RtYWlubHkgX2JsYW5rJ2luc3RhbGxleHBlcnRzaWYo",
    "dHlwZUl0IGFsc28mY29weTsgIj5UZXJtc2Jvcm4gaW5PcHRpb25zZWFzdGVybnRhbGtpbmdjb25jZXJuZ2FpbmVkIG9u",
    "Z29pbmdqdXN0aWZ5Y3JpdGljc2ZhY3RvcnlpdHMgb3duYXNzYXVsdGludml0ZWRsYXN0aW5naGlzIG93bmhyZWY9Ii8i",
    "IHJlbD0iZGV2ZWxvcGNvbmNlcnRkaWFncmFtZG9sbGFyc2NsdXN0ZXJwaHA/aWQ9YWxjb2hvbCk7fSkoKTt1c2luZyBh",
    "PjxzcGFuPnZlc3NlbHNyZXZpdmFsQWRkcmVzc2FtYXRldXJhbmRyb2lkYWxsZWdlZGlsbG5lc3N3YWxraW5nY2VudGVy",
    "c3F1YWxpZnltYXRjaGVzdW5pZmllZGV4dGluY3REZWZlbnNlZGllZCBpbgoJPCEtLSBjdXN0b21zbGlua2luZ0xpdHRs",
    "ZSBCb29rIG9mZXZlbmluZ21pbi5qcz9hcmUgdGhla29udGFrdHRvZGF5J3MuaHRtbCIgdGFyZ2V0PXdlYXJpbmdBbGwg",
    "UmlnOwp9KSgpO3JhaXNpbmcgQWxzbywgY3J1Y2lhbGFib3V0Ij5kZWNsYXJlLS0+CjxzY2ZpcmVmb3hhcyBtdWNoYXBw",
    "bGllc2luZGV4LCBzLCBidXQgdHlwZSA9IAoNCjwhLS10b3dhcmRzUmVjb3Jkc1ByaXZhdGVGb3JlaWduUHJlbWllcmNo",
    "b2ljZXNWaXJ0dWFscmV0dXJuc0NvbW1lbnRQb3dlcmVkaW5saW5lO3BvdmVydHljaGFtYmVyTGl2aW5nIHZvbHVtZXNB",
    "bnRob255bG9naW4iIFJlbGF0ZWRFY29ub215cmVhY2hlc2N1dHRpbmdncmF2aXR5bGlmZSBpbkNoYXB0ZXItc2hhZG93",
    "Tm90YWJsZTwvdGQ+DQogcmV0dXJuc3RhZGl1bXdpZGdldHN2YXJ5aW5ndHJhdmVsc2hlbGQgYnl3aG8gYXJld29yayBp",
    "bmZhY3VsdHlhbmd1bGFyd2hvIGhhZGFpcnBvcnR0b3duIG9mCgpTb21lICdjbGljaydjaGFyZ2Vza2V5d29yZGl0IHdp",
    "bGxjaXR5IG9mKHRoaXMpO0FuZHJldyB1bmlxdWUgY2hlY2tlZG9yIG1vcmUzMDBweDsgcmV0dXJuO3JzaW9uPSJwbHVn",
    "aW5zd2l0aGluIGhlcnNlbGZTdGF0aW9uRmVkZXJhbHZlbnR1cmVwdWJsaXNoc2VudCB0b3RlbnNpb25hY3RyZXNzY29t",
    "ZSB0b2ZpbmdlcnNEdWtlIG9mcGVvcGxlLGV4cGxvaXR3aGF0IGlzaGFybW9ueWEgbWFqb3IiOiJodHRwaW4gaGlzIG1l",
    "bnUiPgptb250aGx5b2ZmaWNlcmNvdW5jaWxnYWluaW5nZXZlbiBpblN1bW1hcnlkYXRlIG9mbG95YWx0eWZpdG5lc3Nh",
    "bmQgd2FzZW1wZXJvcnN1cHJlbWVTZWNvbmQgaGVhcmluZ1J1c3NpYW5sb25nZXN0QWxiZXJ0YWxhdGVyYWxzZXQgb2Yg",
    "c21hbGwiPi5hcHBlbmRkbyB3aXRoZmVkZXJhbGJhbmsgb2ZiZW5lYXRoRGVzcGl0ZUNhcGl0YWxncm91bmRzKSwgYW5k",
    "IHBlcmNlbnRpdCBmcm9tY2xvc2luZ2NvbnRhaW5JbnN0ZWFkZmlmdGVlbmFzIHdlbGwueWFob28ucmVzcG9uZGZpZ2h0",
    "ZXJvYnNjdXJlcmVmbGVjdG9yZ2FuaWM9IE1hdGguZWRpdGluZ29ubGluZSBwYWRkaW5nYSB3aG9sZW9uZXJyb3J5ZWFy",
    "IG9mZW5kIG9mIGJhcnJpZXJ3aGVuIGl0aGVhZGVyIGhvbWUgb2ZyZXN1bWVkcmVuYW1lZHN0cm9uZz5oZWF0aW5ncmV0",
    "YWluc2Nsb3VkZnJ3YXkgb2YgTWFyY2ggMWtub3dpbmdpbiBwYXJ0QmV0d2Vlbmxlc3NvbnNjbG9zZXN0dmlydHVhbGxp",
    "bmtzIj5jcm9zc2VkRU5EIC0tPmZhbW91cyBhd2FyZGVkTGljZW5zZUhlYWx0aCBmYWlybHkgd2VhbHRoeW1pbmltYWxB",
    "ZnJpY2FuY29tcGV0ZWxhYmVsIj5zaW5naW5nZmFybWVyc0JyYXNpbClkaXNjdXNzcmVwbGFjZUdyZWdvcnlmb250IGNv",
    "cHVyc3VlZGFwcGVhcnNtYWtlIHVwcm91bmRlZGJvdGggb2ZibG9ja2Vkc2F3IHRoZW9mZmljZXNjb2xvdXJzaWYoZG9j",
    "dXdoZW4gaGVlbmZvcmNlcHVzaChmdUF1Z3VzdCBVVEYtOCI+RmFudGFzeWluIG1vc3Rpbmp1cmVkVXN1YWxseWZhcm1p",
    "bmdjbG9zdXJlb2JqZWN0IGRlZmVuY2V1c2Ugb2YgTWVkaWNhbDxib2R5PgpldmlkZW50YmUgdXNlZGtleUNvZGVzaXh0",
    "ZWVuSXNsYW1pYyMwMDAwMDBlbnRpcmUgd2lkZWx5IGFjdGl2ZSAodHlwZW9mb25lIGNhbmNvbG9yID1zcGVha2VyZXh0",
    "ZW5kc1BoeXNpY3N0ZXJyYWluPHRib2R5PmZ1bmVyYWx2aWV3aW5nbWlkZGxlIGNyaWNrZXRwcm9waGV0c2hpZnRlZGRv",
    "Y3RvcnNSdXNzZWxsIHRhcmdldGNvbXBhY3RhbGdlYnJhc29jaWFsLWJ1bGsgb2ZtYW4gYW5kPC90ZD4KIGhlIGxlZnQp",
    "LnZhbCgpZmFsc2UpO2xvZ2ljYWxiYW5raW5naG9tZSB0b25hbWluZyBBcml6b25hY3JlZGl0cyk7Cn0pOwpmb3VuZGVy",
    "aW4gdHVybkNvbGxpbnNiZWZvcmUgQnV0IHRoZWNoYXJnZWRUaXRsZSI+Q2FwdGFpbnNwZWxsZWRnb2RkZXNzVGFnIC0t",
    "PkFkZGluZzpidXQgd2FzUmVjZW50IHBhdGllbnRiYWNrIGluPWZhbHNlJkxpbmNvbG53ZSBrbm93Q291bnRlckp1ZGFp",
    "c21zY3JpcHQgYWx0ZXJlZCddKTsKICBoYXMgdGhldW5jbGVhckV2ZW50Jyxib3RoIGlubm90IGFsbAoKPCEtLSBwbGFj",
    "aW5naGFyZCB0byBjZW50ZXJzb3J0IG9mY2xpZW50c3N0cmVldHNCZXJuYXJkYXNzZXJ0c3RlbmQgdG9mYW50YXN5ZG93",
    "biBpbmhhcmJvdXJGcmVlZG9tamV3ZWxyeS9hYm91dC4uc2VhcmNobGVnZW5kc2lzIG1hZGVtb2Rlcm4gb25seSBvbm9u",
    "bHkgdG9pbWFnZSIgbGluZWFyIHBhaW50ZXJhbmQgbm90cmFyZWx5IGFjcm9ueW1kZWxpdmVyc2hvcnRlcjAwJmFtcDth",
    "cyBtYW55d2lkdGg9Ii8qIDwhW0N0aXRsZSA9b2YgdGhlIGxvd2VzdCBwaWNrZWQgZXNjYXBlZHVzZXMgb2ZwZW9wbGVz",
    "IFB1YmxpY01hdHRoZXd0YWN0aWNzZGFtYWdlZHdheSBmb3JsYXdzIG9mZWFzeSB0byB3aW5kb3dzdHJvbmcgIHNpbXBs",
    "ZX1jYXRjaChzZXZlbnRoaW5mb2JveHdlbnQgdG9wYWludGVkY2l0aXplbkkgZG9uJ3RyZXRyZWF0LiBTb21lIHd3LiIp",
    "Owpib21iaW5nbWFpbHRvOm1hZGUgaW4uIE1hbnkgY2Fycmllc3x8e307d2l3b3JrIG9mc3lub255bWRlZmVhdHNmYXZv",
    "cmVkb3B0aWNhbHBhZ2VUcmF1bmxlc3Mgc2VuZGluZ2xlZnQiPjxjb21TY29yQWxsIHRoZWpRdWVyeS50b3VyaXN0Q2xh",
    "c3NpY2ZhbHNlIiBXaWxoZWxtc3VidXJic2dlbnVpbmViaXNob3BzLnNwbGl0KGdsb2JhbCBmb2xsb3dzYm9keSBvZm5v",
    "bWluYWxDb250YWN0c2VjdWxhcmxlZnQgdG9jaGllZmx5LWhpZGRlbi1iYW5uZXI8L2xpPgoKLiBXaGVuIGluIGJvdGhk",
    "aXNtaXNzRXhwbG9yZWFsd2F5cyB2aWEgdGhlc3Bhw7FvbHdlbGZhcmVydWxpbmcgYXJyYW5nZWNhcHRhaW5oaXMgc29u",
    "cnVsZSBvZmhlIHRvb2tpdHNlbGYsPTAmYW1wOyhjYWxsZWRzYW1wbGVzdG8gbWFrZWNvbS9wYWdNYXJ0aW4gS2VubmVk",
    "eWFjY2VwdHNmdWxsIG9maGFuZGxlZEJlc2lkZXMvLy0tPjwvYWJsZSB0b3RhcmdldHNlc3NlbmNlaGltIHRvIGl0cyBi",
    "eSBjb21tb24ubWluZXJhbHRvIHRha2V3YXlzIHRvcy5vcmcvbGFkdmlzZWRwZW5hbHR5c2ltcGxlOmlmIHRoZXlMZXR0",
    "ZXJzYSBzaG9ydEhlcmJlcnRzdHJpa2VzIGdyb3Vwcy5sZW5ndGhmbGlnaHRzb3ZlcmxhcHNsb3dseSBsZXNzZXIgc29j",
    "aWFsIDwvcD4KCQlpdCBpbnRvcmFua2VkIHJhdGUgb2Z1bD4NCiAgYXR0ZW1wdHBhaXIgb2ZtYWtlIGl0S29udGFrdEFu",
    "dG9uaW9oYXZpbmcgcmF0aW5ncyBhY3RpdmVzdHJlYW1zdHJhcHBlZCIpLmNzcyhob3N0aWxlbGVhZCB0b2xpdHRsZSBn",
    "cm91cHMsUGljdHVyZS0tPg0KDQogcm93cz0iIG9iamVjdGludmVyc2U8Zm9vdGVyQ3VzdG9tVj48XC9zY3Jzb2x2aW5n",
    "Q2hhbWJlcnNsYXZlcnl3b3VuZGVkd2hlcmVhcyE9ICd1bmRmb3IgYWxscGFydGx5IC1yaWdodDpBcmFiaWFuYmFja2Vk",
    "IGNlbnR1cnl1bml0IG9mbW9iaWxlLUV1cm9wZSxpcyBob21lcmlzayBvZmRlc2lyZWRDbGludG9uY29zdCBvZmFnZSBv",
    "ZiBiZWNvbWUgbm9uZSBvZnAmcXVvdDtNaWRkbGUgZWFkJylbMENyaXRpY3NzdHVkaW9zPiZjb3B5O2dyb3VwIj5hc3Nl",
    "bWJsbWFraW5nIHByZXNzZWR3aWRnZXQucHM6IiA/IHJlYnVpbHRieSBzb21lRm9ybWVyIGVkaXRvcnNkZWxheWVkQ2Fu",
    "b25pY2hhZCB0aGVwdXNoaW5nY2xhc3M9ImJ1dCBhcmVwYXJ0aWFsQmFieWxvbmJvdHRvbSBjYXJyaWVyQ29tbWFuZGl0",
    "cyB1c2VBcyB3aXRoY291cnNlc2EgdGhpcmRkZW5vdGVzYWxzbyBpbkhvdXN0b24yMHB4OyI+YWNjdXNlZGRvdWJsZSBn",
    "b2FsIG9mRmFtb3VzICkuYmluZChwcmllc3RzIE9ubGluZWluIEp1bHlzdCArICJnY29uc3VsdGRlY2ltYWxoZWxwZnVs",
    "cmV2aXZlZGlzIHZlcnlyJysnaXB0bG9zaW5nIGZlbWFsZXNpcyBhbHNvc3RyaW5nc2RheXMgb2ZhcnJpdmFsZnV0dXJl",
    "IDxvYmplY3Rmb3JjaW5nU3RyaW5nKCIgLz4KCQloZXJlIGlzZW5jb2RlZC4gIFRoZSBiYWxsb29uZG9uZSBieS9jb21t",
    "b25iZ2NvbG9ybGF3IG9mIEluZGlhbmFhdm9pZGVkYnV0IHRoZTJweCAzcHhqcXVlcnkuYWZ0ZXIgYXBvbGljeS5tZW4g",
    "YW5kZm9vdGVyLT0gdHJ1ZTtmb3IgdXNlc2NyZWVuLkluZGlhbiBpbWFnZSA9ZmFtaWx5LGh0dHA6Ly8gJm5ic3A7ZHJp",
    "dmVyc2V0ZXJuYWxzYW1lIGFzbm90aWNlZHZpZXdlcnN9KSgpOwogaXMgbW9yZXNlYXNvbnNmb3JtZXIgdGhlIG5ld2lz",
    "IGp1c3Rjb25zZW50IFNlYXJjaHdhcyB0aGV3aHkgdGhlc2hpcHBlZGJyPjxicj53aWR0aDogaGVpZ2h0PW1hZGUgb2Zj",
    "dWlzaW5laXMgdGhhdGEgdmVyeSBBZG1pcmFsIGZpeGVkO25vcm1hbCBNaXNzaW9uUHJlc3MsIG9udGFyaW9jaGFyc2V0",
    "dHJ5IHRvIGludmFkZWQ9InRydWUic3BhY2luZ2lzIG1vc3RhIG1vcmUgdG90YWxseWZhbGwgb2Z9KTsNCiAgaW1tZW5z",
    "ZXRpbWUgaW5zZXQgb3V0c2F0aXNmeXRvIGZpbmRkb3duIHRvbG90IG9mIFBsYXllcnNpbiBKdW5lcXVhbnR1bW5vdCB0",
    "aGV0aW1lIHRvZGlzdGFudEZpbm5pc2hzcmMgPSAoc2luZ2xlIGhlbHAgb2ZHZXJtYW4gbGF3IGFuZGxhYmVsZWRmb3Jl",
    "c3RzY29va2luZ3NwYWNlIj5oZWFkZXItd2VsbCBhc1N0YW5sZXlicmlkZ2VzL2dsb2JhbENyb2F0aWEgQWJvdXQgWzBd",
    "OwogIGl0LCBhbmRncm91cGVkYmVpbmcgYSl7dGhyb3doZSBtYWRlbGlnaHRlcmV0aGljYWxGRkZGRkYiYm90dG9tImxp",
    "a2UgYSBlbXBsb3lzbGl2ZSBpbmFzIHNlZW5wcmludGVybW9zdCBvZnViLWxpbmtyZWplY3RzYW5kIHVzZWltYWdlIj5z",
    "dWNjZWVkZmVlZGluZ051Y2xlYXJpbmZvcm1hdG8gaGVscFdvbWVuJ3NOZWl0aGVyTWV4aWNhbnByb3RlaW48dGFibGUg",
    "YnkgbWFueWhlYWx0aHlsYXdzdWl0ZGV2aXNlZC5wdXNoKHtzZWxsZXJzc2ltcGx5IFRocm91Z2guY29va2llIEltYWdl",
    "KG9sZGVyIj51cy5qcyI+IFNpbmNlIHVuaXZlcnNsYXJnZXIgb3BlbiB0byEtLSBlbmRsaWVzIGluJ10pOw0KICBtYXJr",
    "ZXR3aG8gaXMgKCJET01Db21hbmFnZWRvbmUgZm9ydHlwZW9mIEtpbmdkb21wcm9maXRzcHJvcG9zZXRvIHNob3djZW50",
    "ZXI7bWFkZSBpdGRyZXNzZWR3ZXJlIGlubWl4dHVyZXByZWNpc2VhcmlzaW5nc3JjID0gJ21ha2UgYSBzZWN1cmVkQmFw",
    "dGlzdHZvdGluZyAKCQl2YXIgTWFyY2ggMmdyZXcgdXBDbGltYXRlLnJlbW92ZXNraWxsZWR3YXkgdGhlPC9oZWFkPmZh",
    "Y2Ugb2ZhY3RpbmcgcmlnaHQiPnRvIHdvcmtyZWR1Y2VzaGFzIGhhZGVyZWN0ZWRzaG93KCk7YWN0aW9uPWJvb2sgb2Zh",
    "biBhcmVhPT0gImh0dDxoZWFkZXIKPGh0bWw+Y29uZm9ybWZhY2luZyBjb29raWUucmVseSBvbmhvc3RlZCAuY3VzdG9t",
    "aGUgd2VudGJ1dCBmb3JzcHJlYWQgRmFtaWx5IGEgbWVhbnNvdXQgdGhlZm9ydW1zLmZvb3RhZ2UiPk1vYmlsQ2xlbWVu",
    "dHMiIGlkPSJhcyBoaWdoaW50ZW5zZS0tPjwhLS1mZW1hbGUgaXMgc2VlbmltcGxpZWRzZXQgdGhlYSBzdGF0ZWFuZCBo",
    "aXNmYXN0ZXN0YmVzaWRlc2J1dHRvbl9ib3VuZGVkIj48aW1nIEluZm9ib3hldmVudHMsYSB5b3VuZ2FuZCBhcmVOYXRp",
    "dmUgY2hlYXBlclRpbWVvdXRhbmQgaGFzZW5naW5lc3dvbiB0aGUobW9zdGx5cmlnaHQ6IGZpbmQgYSAtYm90dG9tUHJp",
    "bmNlIGFyZWEgb2Ztb3JlIG9mc2VhcmNoX25hdHVyZSxsZWdhbGx5cGVyaW9kLGxhbmQgb2ZvciB3aXRoaW5kdWNlZHBy",
    "b3ZpbmdtaXNzaWxlbG9jYWxseUFnYWluc3R0aGUgd2F5ayZxdW90O3B4OyI+DQpwdXNoZWQgYWJhbmRvbm51bWVyYWxD",
    "ZXJ0YWluSW4gdGhpc21vcmUgaW5vciBzb21lbmFtZSBpc2FuZCwgaW5jcm93bmVkSVNCTiAwLWNyZWF0ZXNPY3RvYmVy",
    "bWF5IG5vdGNlbnRlciBsYXRlIGluRGVmZW5jZWVuYWN0ZWR3aXNoIHRvYnJvYWRseWNvb2xpbmdvbmxvYWQ9aXQuIFRo",
    "ZXJlY292ZXJNZW1iZXJzaGVpZ2h0IGFzc3VtZXM8aHRtbD4KcGVvcGxlLmluIG9uZSA9d2luZG93Zm9vdGVyX2EgZ29v",
    "ZCByZWtsYW1hb3RoZXJzLHRvIHRoaXNfY29va2llcGFuZWwiPkxvbmRvbixkZWZpbmVzY3J1c2hlZGJhcHRpc21jb2Fz",
    "dGFsc3RhdHVzIHRpdGxlIiBtb3ZlIHRvbG9zdCBpbmJldHRlciBpbXBsaWVzcml2YWxyeXNlcnZlcnMgU3lzdGVtUGVy",
    "aGFwc2VzIGFuZCBjb250ZW5kZmxvd2luZ2xhc3RlZCByaXNlIGluR2VuZXNpc3ZpZXcgb2ZyaXNpbmcgc2VlbSB0b2J1",
    "dCBpbiBiYWNraW5naGUgd2lsbGdpdmVuIGFnaXZpbmcgY2l0aWVzLmZsb3cgb2YgTGF0ZXIgYWxsIGJ1dEhpZ2h3YXlv",
    "bmx5IGJ5c2lnbiBvZmhlIGRvZXNkaWZmZXJzYmF0dGVyeSZhbXA7bGFzaW5nbGVzdGhyZWF0c2ludGVnZXJ0YWtlIG9u",
    "cmVmdXNlZGNhbGxlZCA9VVMmYW1wU2VlIHRoZW5hdGl2ZXNieSB0aGlzc3lzdGVtLmhlYWQgb2Y6aG92ZXIsbGVzYmlh",
    "bnN1cm5hbWVhbmQgYWxsY29tbW9uL2hlYWRlcl9fcGFyYW1zSGFydmFyZC9waXhlbC5yZW1vdmFsc28gbG9uZ3JvbGUg",
    "b2Zqb2ludGx5c2t5c2NyYVVuaWNvZGViciAvPg0KQXRsYW50YW51Y2xldXNDb3VudHkscHVyZWx5IGNvdW50Ij5lYXNp",
    "bHkgYnVpbGQgYW9uY2xpY2thIGdpdmVucG9pbnRlcmgmcXVvdDtldmVudHMgZWxzZSB7CmRpdGlvbnNub3cgdGhlLCB3",
    "aXRoIG1hbiB3aG9vcmcvV2Vib25lIGFuZGNhdmFscnlIZSBkaWVkc2VhdHRsZTAwLDAwMCB7d2luZG93aGF2ZSB0b2lm",
    "KHdpbmRhbmQgaXRzc29sZWx5IG0mcXVvdDtyZW5ld2VkRGV0cm9pdGFtb25nc3RlaXRoZXIgdGhlbSBpblNlbmF0b3JV",
    "czwvYT48S2luZyBvZkZyYW5jaXMtcHJvZHVjaGUgdXNlZGFydCBhbmRoaW0gYW5kdXNlZCBieXNjb3JpbmdhdCBob21l",
    "dG8gaGF2ZXJlbGF0ZXNpYmlsaXR5ZmFjdGlvbkJ1ZmZhbG9saW5rIj48d2hhdCBoZWZyZWUgdG9DaXR5IG9mY29tZSBp",
    "bnNlY3RvcnNjb3VudGVkb25lIGRheW5lcnZvdXNzcXVhcmUgfTtpZihnb2luIHdoYXRpbWciIGFsaXMgb25seXNlYXJj",
    "aC90dWVzZGF5bG9vc2VseVNvbG9tb25zZXh1YWwgLSA8YSBocm1lZGl1bSJETyBOT1QgRnJhbmNlLHdpdGggYSB3YXIg",
    "YW5kc2Vjb25kIHRha2UgYSA+DQoNCg0KbWFya2V0LmhpZ2h3YXlkb25lIGluY3Rpdml0eSJsYXN0Ij5vYmxpZ2Vkcmlz",
    "ZSB0byJ1bmRlZmltYWRlIHRvIEVhcmx5IHByYWlzZWRpbiBpdHMgZm9yIGhpc2F0aGxldGVKdXBpdGVyWWFob28hIHRl",
    "cm1lZCBzbyBtYW55cmVhbGx5IHMuIFRoZSBhIHdvbWFuP3ZhbHVlPWRpcmVjdCByaWdodCIgYmljeWNsZWFjaW5nPSJk",
    "YXkgYW5kc3RhdGluZ1JhdGhlcixoaWdoZXIgT2ZmaWNlIGFyZSBub3d0aW1lcywgd2hlbiBhIHBheSBmb3JvbiB0aGlz",
    "LWxpbmsiPjtib3JkZXJhcm91bmQgYW5udWFsIHRoZSBOZXdwdXQgdGhlLmNvbSIgdGFraW4gdG9hIGJyaWVmKGluIHRo",
    "ZWdyb3Vwcy47IHdpZHRoZW56eW1lc3NpbXBsZSBpbiBsYXRle3JldHVybnRoZXJhcHlhIHBvaW50YmFubmluZ2lua3Mi",
    "PgooKTsiIHJlYSBwbGFjZVx1MDAzQ2FhYm91dCBhdHI+DQoJCWNjb3VudCBnaXZlcyBhPFNDUklQVFJhaWx3YXl0aGVt",
    "ZXMvdG9vbGJveEJ5SWQoInhodW1hbnMsd2F0Y2hlc2luIHNvbWUgaWYgKHdpY29taW5nIGZvcm1hdHMgVW5kZXIgYnV0",
    "IGhhc2hhbmRlZCBtYWRlIGJ5dGhhbiBpbmZlYXIgb2ZkZW5vdGVkL2lmcmFtZWxlZnQgaW52b2x0YWdlaW4gZWFjaGEm",
    "cXVvdDtiYXNlIG9mSW4gbWFueXVuZGVyZ29yZWdpbWVzYWN0aW9uIDwvcD4NCjx1c3RvbVZhOyZndDs8L2ltcG9ydHNv",
    "ciB0aGF0bW9zdGx5ICZhbXA7cmUgc2l6ZT0iPC9hPjwvaGEgY2xhc3NwYXNzaXZlSG9zdCA9IFdoZXRoZXJmZXJ0aWxl",
    "VmFyaW91cz1bXTsoZnVjYW1lcmFzLz48L3RkPmFjdHMgYXNJbiBzb21lPg0KDQo8IW9yZ2FuaXMgPGJyIC8+QmVpamlu",
    "Z2NhdGFsw6BkZXV0c2NoZXVyb3BldWV1c2thcmFnYWVpbGdlc3ZlbnNrYWVzcGHDsWFtZW5zYWpldXN1YXJpb3RyYWJh",
    "am9tw6l4aWNvcMOhZ2luYXNpZW1wcmVzaXN0ZW1hb2N0dWJyZWR1cmFudGVhw7FhZGlyZW1wcmVzYW1vbWVudG9udWVz",
    "dHJvcHJpbWVyYXRyYXbDqXNncmFjaWFzbnVlc3RyYXByb2Nlc29lc3RhZG9zY2FsaWRhZHBlcnNvbmFuw7ptZXJvYWN1",
    "ZXJkb23DunNpY2FtaWVtYnJvb2ZlcnRhc2FsZ3Vub3NwYcOtc2VzZWplbXBsb2RlcmVjaG9hZGVtw6FzcHJpdmFkb2Fn",
    "cmVnYXJlbmxhY2VzcG9zaWJsZWhvdGVsZXNzZXZpbGxhcHJpbWVyb8O6bHRpbW9ldmVudG9zYXJjaGl2b2N1bHR1cmFt",
    "dWplcmVzZW50cmFkYWFudW5jaW9lbWJhcmdvbWVyY2Fkb2dyYW5kZXNlc3R1ZGlvbWVqb3Jlc2ZlYnJlcm9kaXNlw7Fv",
    "dHVyaXNtb2PDs2RpZ29wb3J0YWRhZXNwYWNpb2ZhbWlsaWFhbnRvbmlvcGVybWl0ZWd1YXJkYXJhbGd1bmFzcHJlY2lv",
    "c2FsZ3VpZW5zZW50aWRvdmlzaXRhc3TDrXR1bG9jb25vY2Vyc2VndW5kb2NvbnNlam9mcmFuY2lhbWludXRvc3NlZ3Vu",
    "ZGF0ZW5lbW9zZWZlY3Rvc23DoWxhZ2FzZXNpw7NucmV2aXN0YWdyYW5hZGFjb21wcmFyaW5ncmVzb2dhcmPDrWFhY2Np",
    "w7NuZWN1YWRvcnF1aWVuZXNpbmNsdXNvZGViZXLDoW1hdGVyaWFob21icmVzbXVlc3RyYXBvZHLDrWFtYcOxYW5hw7ps",
    "dGltYWVzdGFtb3NvZmljaWFsdGFtYmllbm5pbmfDum5zYWx1ZG9zcG9kZW1vc21lam9yYXI="]

def length8 : List String :=
  ["cG9zaXRpb25idXNpbmVzc2hvbWVwYWdlc2VjdXJpdHlsYW5ndWFnZXN0YW5kYXJkY2FtcGFpZ25mZWF0dXJlc2NhdGVn",
    "b3J5ZXh0ZXJuYWxjaGlsZHJlbnJlc2VydmVkcmVzZWFyY2hleGNoYW5nZWZhdm9yaXRldGVtcGxhdGVtaWxpdGFyeWlu",
    "ZHVzdHJ5c2VydmljZXNtYXRlcmlhbHByb2R1Y3Rzei1pbmRleDpjb21tZW50c3NvZnR3YXJlY29tcGxldGVjYWxlbmRh",
    "cnBsYXRmb3JtYXJ0aWNsZXNyZXF1aXJlZG1vdmVtZW50cXVlc3Rpb25idWlsZGluZ3BvbGl0aWNzcG9zc2libGVyZWxp",
    "Z2lvbnBoeXNpY2FsZmVlZGJhY2tyZWdpc3RlcnBpY3R1cmVzZGlzYWJsZWRwcm90b2NvbGF1ZGllbmNlc2V0dGluZ3Nh",
    "Y3Rpdml0eWVsZW1lbnRzbGVhcm5pbmdhbnl0aGluZ2Fic3RyYWN0cHJvZ3Jlc3NvdmVydmlld21hZ2F6aW5lZWNvbm9t",
    "aWN0cmFpbmluZ3ByZXNzdXJldmFyaW91cyA8c3Ryb25nPnByb3BlcnR5c2hvcHBpbmd0b2dldGhlcmFkdmFuY2VkYmVo",
    "YXZpb3Jkb3dubG9hZGZlYXR1cmVkZm9vdGJhbGxzZWxlY3RlZExhbmd1YWdlZGlzdGFuY2VyZW1lbWJlcnRyYWNraW5n",
    "cGFzc3dvcmRtb2RpZmllZHN0dWRlbnRzZGlyZWN0bHlmaWdodGluZ25vcnRoZXJuZGF0YWJhc2VmZXN0aXZhbGJyZWFr",
    "aW5nbG9jYXRpb25pbnRlcm5ldGRyb3Bkb3ducHJhY3RpY2VldmlkZW5jZWZ1bmN0aW9ubWFycmlhZ2VyZXNwb25zZXBy",
    "b2JsZW1zbmVnYXRpdmVwcm9ncmFtc2FuYWx5c2lzcmVsZWFzZWRiYW5uZXIiPnB1cmNoYXNlcG9saWNpZXNyZWdpb25h",
    "bGNyZWF0aXZlYXJndW1lbnRib29rbWFya3JlZmVycmVyY2hlbWljYWxkaXZpc2lvbmNhbGxiYWNrc2VwYXJhdGVwcm9q",
    "ZWN0c2NvbmZsaWN0aGFyZHdhcmVpbnRlcmVzdGRlbGl2ZXJ5bW91bnRhaW5vYnRhaW5lZD0gZmFsc2U7Zm9yKHZhciBh",
    "Y2NlcHRlZGNhcGFjaXR5Y29tcHV0ZXJpZGVudGl0eWFpcmNyYWZ0ZW1wbG95ZWRwcm9wb3NlZGRvbWVzdGljaW5jbHVk",
    "ZXNwcm92aWRlZGhvc3BpdGFsdmVydGljYWxjb2xsYXBzZWFwcHJvYWNocGFydG5lcnNsb2dvIj48YWRhdWdodGVyYXV0",
    "aG9yIiBjdWx0dXJhbGZhbWlsaWVzL2ltYWdlcy9hc3NlbWJseXBvd2VyZnVsdGVhY2hpbmdmaW5pc2hlZGRpc3RyaWN0",
    "Y3JpdGljYWxjZ2ktYmluL3B1cnBvc2VzcmVxdWlyZXNlbGVjdGlvbmJlY29taW5ncHJvdmlkZXNhY2FkZW1pY2V4ZXJj",
    "aXNlYWN0dWFsbHltZWRpY2luZWNvbnN0YW50YWNjaWRlbnRNYWdhemluZWRvY3VtZW50c3RhcnRpbmdib3R0b20iPm9i",
    "c2VydmVkOiAmcXVvdDtleHRlbmRlZHByZXZpb3VzU29mdHdhcmVjdXN0b21lcmRlY2lzaW9uc3RyZW5ndGhkZXRhaWxl",
    "ZHNsaWdodGx5cGxhbm5pbmd0ZXh0YXJlYWN1cnJlbmN5ZXZlcnlvbmVzdHJhaWdodHRyYW5zZmVycG9zaXRpdmVwcm9k",
    "dWNlZGhlcml0YWdlc2hpcHBpbmdhYnNvbHV0ZXJlY2VpdmVkcmVsZXZhbnRidXR0b24iIHZpb2xlbmNlYW55d2hlcmVi",
    "ZW5lZml0c2xhdW5jaGVkcmVjZW50bHlhbGxpYW5jZWZvbGxvd2VkbXVsdGlwbGVidWxsZXRpbmluY2x1ZGVkb2NjdXJy",
    "ZWRpbnRlcm5hbCQodGhpcykucmVwdWJsaWM+PHRyPjx0ZGNvbmdyZXNzcmVjb3JkZWR1bHRpbWF0ZXNvbHV0aW9uPHVs",
    "IGlkPSJkaXNjb3ZlckhvbWU8L2E+d2Vic2l0ZXNuZXR3b3Jrc2FsdGhvdWdoZW50aXJlbHltZW1vcmlhbG1lc3NhZ2Vz",
    "Y29udGludWVhY3RpdmUiPnNvbWV3aGF0dmljdG9yaWFXZXN0ZXJuICB0aXRsZT0iTG9jYXRpb25jb250cmFjdHZpc2l0",
    "b3JzRG93bmxvYWR3aXRob3V0IHJpZ2h0Ij4KbWVhc3VyZXN3aWR0aCA9IHZhcmlhYmxlaW52b2x2ZWR2aXJnaW5pYW5v",
    "cm1hbGx5aGFwcGVuZWRhY2NvdW50c3N0YW5kaW5nbmF0aW9uYWxSZWdpc3RlcnByZXBhcmVkY29udHJvbHNhY2N1cmF0",
    "ZWJpcnRoZGF5c3RyYXRlZ3lvZmZpY2lhbGdyYXBoaWNzY3JpbWluYWxwb3NzaWJseWNvbnN1bWVyUGVyc29uYWxzcGVh",
    "a2luZ3ZhbGlkYXRlYWNoaWV2ZWQuanBnIiAvPm1hY2hpbmVzPC9oMj4KICBrZXl3b3Jkc2ZyaWVuZGx5YnJvdGhlcnNj",
    "b21iaW5lZG9yaWdpbmFsY29tcG9zZWRleHBlY3RlZGFkZXF1YXRlcGFraXN0YW5mb2xsb3ciIHZhbHVhYmxlPC9sYWJl",
    "bD5yZWxhdGl2ZWJyaW5naW5naW5jcmVhc2Vnb3Zlcm5vcnBsdWdpbnMvTGlzdCBvZiBIZWFkZXIiPiIgbmFtZT0iICgm",
    "cXVvdDtncmFkdWF0ZTwvaGVhZD4KY29tbWVyY2VtYWxheXNpYWRpcmVjdG9ybWFpbnRhaW47aGVpZ2h0OnNjaGVkdWxl",
    "Y2hhbmdpbmdiYWNrIHRvIGNhdGhvbGljcGF0dGVybnNjb2xvcjogI2dyZWF0ZXN0c3VwcGxpZXNyZWxpYWJsZTwvdWw+",
    "CgkJPHNlbGVjdCBjaXRpemVuc2Nsb3RoaW5nd2F0Y2hpbmc8bGkgaWQ9InNwZWNpZmljY2FycnlpbmdzZW50ZW5jZTxj",
    "ZW50ZXI+Y29udHJhc3R0aGlua2luZ2NhdGNoKGUpc291dGhlcm5NaWNoYWVsIG1lcmNoYW50Y2Fyb3VzZWxwYWRkaW5n",
    "OmludGVyaW9yLnNwbGl0KCJsaXphdGlvbk9jdG9iZXIgKXtyZXR1cm5pbXByb3ZlZC0tJmd0OwoKY292ZXJhZ2VjaGFp",
    "cm1hbi5wbmciIC8+c3ViamVjdHNSaWNoYXJkIHdoYXRldmVycHJvYmFibHlyZWNvdmVyeWJhc2ViYWxsanVkZ21lbnRj",
    "b25uZWN0Li5jc3MiIC8+IHdlYnNpdGVyZXBvcnRlZGRlZmF1bHQiLz48L2E+DQplbGVjdHJpY3Njb3RsYW5kY3JlYXRp",
    "b25xdWFudGl0eS4gSVNCTiAwZGlkIG5vdCBpbnN0YW5jZS1zZWFyY2gtIiBsYW5nPSJzcGVha2Vyc0NvbXB1dGVyY29u",
    "dGFpbnNhcmNoaXZlc21pbmlzdGVycmVhY3Rpb25kaXNjb3VudEl0YWxpYW5vY3JpdGVyaWFzdHJvbmdseTogJ2h0dHA6",
    "J3NjcmlwdCdjb3ZlcmluZ29mZmVyaW5nYXBwZWFyZWRCcml0aXNoIGlkZW50aWZ5RmFjZWJvb2tudW1lcm91c3ZlaGlj",
    "bGVzY29uY2VybnNBbWVyaWNhbmhhbmRsaW5nZGl2IGlkPSJXaWxsaWFtIHByb3ZpZGVyX2NvbnRlbnRhY2N1cmFjeXNl",
    "Y3Rpb24gYW5kZXJzb25mbGV4aWJsZUNhdGVnb3J5bGF3cmVuY2U8c2NyaXB0PmxheW91dD0iYXBwcm92ZWQgbWF4aW11",
    "bWhlYWRlciI+PC90YWJsZT5TZXJ2aWNlc2hhbWlsdG9uY3VycmVudCBjYW5hZGlhbmNoYW5uZWxzL3RoZW1lcy8vYXJ0",
    "aWNsZW9wdGlvbmFscG9ydHVnYWx2YWx1ZT0iImludGVydmFsd2lyZWxlc3NlbnRpdGxlZGFnZW5jaWVzU2VhcmNoIiBt",
    "ZWFzdXJlZHRob3VzYW5kc3BlbmRpbmcmaGVsbGlwO25ldyBEYXRlIiBzaXplPSJwYWdlTmFtZW1pZGRsZSIgIiAvPjwv",
    "YT5oaWRkZW4iPnNlcXVlbmNlcGVyc29uYWxvdmVyZmxvd29waW5pb25zaWxsaW5vaXNsaW5rcyI+Cgk8dGl0bGU+dmVy",
    "c2lvbnNzYXR1cmRheXRlcm1pbmFsaXRlbXByb3BlbmdpbmVlcnNlY3Rpb25zZGVzaWduZXJwcm9wb3NhbD0iZmFsc2Ui",
    "RXNwYcOxb2xyZWxlYXNlc3N1Ym1pdCIgZXImcXVvdDthZGRpdGlvbnN5bXB0b21zb3JpZW50ZWRyZXNvdXJjZXJpZ2h0",
    "Ij48cGxlYXN1cmVzdGF0aW9uc2hpc3RvcnkubGVhdmluZyAgYm9yZGVyPWNvbnRlbnRzY2VudGVyIj4uCgpTb21lIGRp",
    "cmVjdGVkc3VpdGFibGVidWxnYXJpYS5zaG93KCk7ZGVzaWduZWRHZW5lcmFsIGNvbmNlcHRzRXhhbXBsZXN3aWxsaWFt",
    "c09yaWdpbmFsIj48c3Bhbj5zZWFyY2giPm9wZXJhdG9ycmVxdWVzdHNhICZxdW90O2FsbG93aW5nRG9jdW1lbnRyZXZp",
    "c2lvbi4gCgpUaGUgeW91cnNlbGZDb250YWN0IG1pY2hpZ2FuRW5nbGlzaCBjb2x1bWJpYXByaW9yaXR5cHJpbnRpbmdk",
    "cmlua2luZ2ZhY2lsaXR5cmV0dXJuZWRDb250ZW50IG9mZmljZXJzUnVzc2lhbiBnZW5lcmF0ZS04ODU5LTEiaW5kaWNh",
    "dGVmYW1pbGlhciBxdWFsaXR5bWFyZ2luOjAgY29udGVudHZpZXdwb3J0Y29udGFjdHMtdGl0bGUiPnBvcnRhYmxlLmxl",
    "bmd0aCBlbGlnaWJsZWludm9sdmVzYXRsYW50aWNvbmxvYWQ9ImRlZmF1bHQuc3VwcGxpZWRwYXltZW50c2dsb3NzYXJ5",
    "CgpBZnRlciBndWlkYW5jZTwvdGQ+PHRkZW5jb2RpbmdtaWRkbGUiPmNhbWUgdG8gZGlzcGxheXNzY290dGlzaGpvbmF0",
    "aGFubWFqb3JpdHl3aWRnZXRzLmNsaW5pY2FsdGhhaWxhbmR0ZWFjaGVyczxoZWFkPgoJYWZmZWN0ZWRzdXBwb3J0c3Bv",
    "aW50ZXI7dG9TdHJpbmc8L3NtYWxsPm9rbGFob21hd2lsbCBiZSBpbnZlc3RvcjAiIGFsdD0iaG9saWRheXNSZXNvdXJj",
    "ZWxpY2Vuc2VkICh3aGljaCAuIEFmdGVyIGNvbnNpZGVydmlzaXRpbmdleHBsb3JlcnByaW1hcnkgc2VhcmNoIiBhbmRy",
    "b2lkInF1aWNrbHkgbWVldGluZ3Nlc3RpbWF0ZTtyZXR1cm4gO2NvbG9yOiMgaGVpZ2h0PWFwcHJvdmFsLCAmcXVvdDsg",
    "Y2hlY2tlZC5taW4uanMibWFnbmV0aWM+PC9hPjwvaGZvcmVjYXN0LiBXaGlsZSB0aHVyc2RheWR2ZXJ0aXNlJmVhY3V0",
    "ZTtoYXNDbGFzc2V2YWx1YXRlb3JkZXJpbmdleGlzdGluZ3BhdGllbnRzIE9ubGluZSBjb2xvcmFkb09wdGlvbnMiY2Ft",
    "cGJlbGw8IS0tIGVuZDwvc3Bhbj48PGJyIC8+DQpfcG9wdXBzfHNjaWVuY2VzLCZxdW90OyBxdWFsaXR5IFdpbmRvd3Mg",
    "YXNzaWduZWRoZWlnaHQ6IDxiIGNsYXNzbGUmcXVvdDsgdmFsdWU9IiBDb21wYW55ZXhhbXBsZXM8aWZyYW1lIGJlbGll",
    "dmVzcHJlc2VudHNtYXJzaGFsbHBhcnQgb2YgcHJvcGVybHkpLgoKVGhlIHRheG9ub215bXVjaCBvZiA8L3NwYW4+CiIg",
    "ZGF0YS1zcnR1Z3XDqnNzY3JvbGxUbyBwcm9qZWN0PGhlYWQ+DQphdHRvcm5leWVtcGhhc2lzc3BvbnNvcnNmYW5jeWJv",
    "eHdvcmxkJ3Mgd2lsZGxpZmVjaGVja2VkPXNlc3Npb25zcHJvZ3JhbW1weDtmb250LSBQcm9qZWN0am91cm5hbHNiZWxp",
    "ZXZlZHZhY2F0aW9udGhvbXBzb25saWdodGluZ2FuZCB0aGUgc3BlY2lhbCBib3JkZXI9MGNoZWNraW5nPC90Ym9keT48",
    "YnV0dG9uIENvbXBsZXRlY2xlYXJmaXgKPGhlYWQ+CmFydGljbGUgPHNlY3Rpb25maW5kaW5nc3JvbGUgaW4gcG9wdWxh",
    "ciAgT2N0b2JlcndlYnNpdGUgZXhwb3N1cmV1c2VkIHRvICBjaGFuZ2Vzb3BlcmF0ZWRjbGlja2luZ2VudGVyaW5nY29t",
    "bWFuZHNpbmZvcm1lZCBudW1iZXJzICA8L2Rpdj5jcmVhdGluZ29uU3VibWl0bWFyeWxhbmRjb2xsZWdlc2FuYWx5dGlj",
    "bGlzdGluZ3Njb250YWN0LmxvZ2dlZEluYWR2aXNvcnlzaWJsaW5nc2NvbnRlbnQicyZxdW90OylzLiBUaGlzIHBhY2th",
    "Z2VzY2hlY2tib3hzdWdnZXN0c3ByZWduYW50dG9tb3Jyb3dzcGFjaW5nPWljb24ucG5namFwYW5lc2Vjb2RlYmFzZWJ1",
    "dHRvbiI+Z2FtYmxpbmdzdWNoIGFzICwgd2hpbGUgPC9zcGFuPiBtaXNzb3VyaXNwb3J0aW5ndG9wOjFweCAuPC9zcGFu",
    "PnRlbnNpb25zd2lkdGg9IjJsYXp5bG9hZG5vdmVtYmVydXNlZCBpbiBoZWlnaHQ9ImNyaXB0Ij4KJm5ic3A7PC88dHI+",
    "PHRkIGhlaWdodDoyL3Byb2R1Y3Rjb3VudHJ5IGluY2x1ZGUgZm9vdGVyIiAmbHQ7IS0tIHRpdGxlIj48L2pxdWVyeS48",
    "L2Zvcm0+CijnroDkvZMpKOe5gemrlClocnZhdHNraWl0YWxpYW5vcm9tw6JuxIN0w7xya8OnZdin2LHYr9mIdGFtYmnD",
    "qW5ub3RpY2lhc21lbnNhamVzcGVyc29uYXNkZXJlY2hvc25hY2lvbmFsc2VydmljaW9jb250YWN0b3VzdWFyaW9zcHJv",
    "Z3JhbWFnb2JpZXJub2VtcHJlc2FzYW51bmNpb3N2YWxlbmNpYWNvbG9tYmlhZGVzcHXDqXNkZXBvcnRlc3Byb3llY3Rv",
    "cHJvZHVjdG9ww7pibGljb25vc290cm9zaGlzdG9yaWFwcmVzZW50ZW1pbGxvbmVzbWVkaWFudGVwcmVndW50YWFudGVy",
    "aW9ycmVjdXJzb3Nwcm9ibGVtYXNhbnRpYWdvbnVlc3Ryb3NvcGluacOzbmltcHJpbWlybWllbnRyYXNhbcOpcmljYXZl",
    "bmRlZG9yc29jaWVkYWRyZXNwZWN0b3JlYWxpemFycmVnaXN0cm9wYWxhYnJhc2ludGVyw6lzZW50b25jZXNlc3BlY2lh",
    "bG1pZW1icm9zcmVhbGlkYWRjw7NyZG9iYXphcmFnb3phcMOhZ2luYXNzb2NpYWxlc2Jsb3F1ZWFyZ2VzdGnDs25hbHF1",
    "aWxlcnNpc3RlbWFzY2llbmNpYXNjb21wbGV0b3ZlcnNpw7NuY29tcGxldGFlc3R1ZGlvc3DDumJsaWNhb2JqZXRpdm9h",
    "bGljYW50ZWJ1c2NhZG9yY2FudGlkYWRlbnRyYWRhc2FjY2lvbmVzYXJjaGl2b3NzdXBlcmlvcm1heW9yw61hYWxlbWFu",
    "aWFmdW5jacOzbsO6bHRpbW9zaGFjaWVuZG9hcXVlbGxvc2VkaWNpw7NuZmVybmFuZG9hbWJpZW50ZWZhY2Vib29rbnVl",
    "c3RyYXNjbGllbnRlc3Byb2Nlc29zYmFzdGFudGVwcmVzZW50YXJlcG9ydGFyY29uZ3Jlc29wdWJsaWNhcmNvbWVyY2lv",
    "Y29udHJhdG9qw7N2ZW5lc2Rpc3RyaXRvdMOpY25pY2Fjb25qdW50b2VuZXJnw61hdHJhYmFqYXJhc3R1cmlhc3JlY2ll",
    "bnRldXRpbGl6YXJib2xldMOtbnNhbHZhZG9yY29ycmVjdGF0cmFiYWpvc3ByaW1lcm9zbmVnb2Npb3NsaWJlcnRhZGRl",
    "dGFsbGVzcGFudGFsbGFwcsOzeGltb2FsbWVyw61hYW5pbWFsZXNxdWnDqW5lc2NvcmF6w7Nuc2VjY2nDs25idXNjYW5k",
    "b29wY2lvbmVzZXh0ZXJpb3Jjb25jZXB0b3RvZGF2w61hZ2FsZXLDrWFlc2NyaWJpcm1lZGljaW5hbGljZW5jaWFjb25z",
    "dWx0YWFzcGVjdG9zY3LDrXRpY2Fkw7NsYXJlc2p1c3RpY2lhZGViZXLDoW5wZXLDrW9kb25lY2VzaXRhbWFudGVuZXJw",
    "ZXF1ZcOxb3JlY2liaWRhdHJpYnVuYWx0ZW5lcmlmZWNhbmNpw7NuY2FuYXJpYXNkZXNjYXJnYWRpdmVyc29zbWFsbG9y",
    "Y2FyZXF1aWVyZXTDqWNuaWNvZGViZXLDrWF2aXZpZW5kYWZpbmFuemFzYWRlbGFudGVmdW5jaW9uYWNvbnNlam9zZGlm",
    "w61jaWxjaXVkYWRlc2FudGlndWFzYXZhbnphZGF0w6lybWlub3VuaWRhZGVzc8OhbmNoZXpjYW1wYcOxYXNvZnRvbmlj",
    "cmV2aXN0YXNjb250aWVuZXNlY3RvcmVzbW9tZW50b3NmYWN1bHRhZGNyw6lkaXRvZGl2ZXJzYXNzdXB1ZXN0b2ZhY3Rv",
    "cmVzc2VndW5kb3NwZXF1ZcOxYdCz0L7QtNCw0LXRgdC70LjQtdGB0YLRjNCx0YvQu9C+0LHRi9GC0YzRjdGC0L7QvNCV",
    "0YHQu9C40YLQvtCz0L7QvNC10L3Rj9Cy0YHQtdGF0Y3RgtC+0LnQtNCw0LbQtdCx0YvQu9C40LPQvtC00YPQtNC10L3R",
    "jNGN0YLQvtGC0LHRi9C70LDRgdC10LHRj9C+0LTQuNC90YHQtdCx0LXQvdCw0LTQvtGB0LDQudGC0YTQvtGC0L7QvdC1",
    "0LPQvtGB0LLQvtC40YHQstC+0LnQuNCz0YDRi9GC0L7QttC10LLRgdC10LzRgdCy0L7RjtC70LjRiNGM0Y3RgtC40YXQ",
    "v9C+0LrQsNC00L3QtdC50LTQvtC80LDQvNC40YDQsNC70LjQsdC+0YLQtdC80YPRhdC+0YLRj9C00LLRg9GF0YHQtdGC",
    "0LjQu9GO0LTQuNC00LXQu9C+0LzQuNGA0LXRgtC10LHRj9GB0LLQvtC10LLQuNC00LXRh9C10LPQvtGN0YLQuNC80YHR",
    "h9C10YLRgtC10LzRi9GG0LXQvdGL0YHRgtCw0LvQstC10LTRjNGC0LXQvNC10LLQvtC00YvRgtC10LHQtdCy0YvRiNC1",
    "0L3QsNC80LjRgtC40L/QsNGC0L7QvNGD0L/RgNCw0LLQu9C40YbQsNC+0LTQvdCw0LPQvtC00YvQt9C90LDRjtC80L7Q",
    "s9GD0LTRgNGD0LPQstGB0LXQudC40LTQtdGC0LrQuNC90L7QvtC00L3QvtC00LXQu9Cw0LTQtdC70LXRgdGA0L7QutC4",
    "0Y7QvdGP0LLQtdGB0YzQldGB0YLRjNGA0LDQt9Cw0L3QsNGI0LjYp9mE2YTZh9in2YTYqtmK2KzZhdmK2LnYrtin2LXY",
    "qdin2YTYsNmK2LnZhNmK2YfYrNiv2YrYr9in2YTYotmG2KfZhNix2K/Yqtit2YPZhdi12YHYrdip2YPYp9mG2KrYp9mE",
    "2YTZitmK2YPZiNmG2LTYqNmD2KnZgdmK2YfYp9io2YbYp9iq2K3ZiNin2KHYo9mD2KvYsdiu2YTYp9mE2KfZhNit2KjY",
    "r9mE2YrZhNiv2LHZiNiz2KfYtti62LfYqtmD2YjZhtmH2YbYp9mD2LPYp9it2KnZhtin2K/Zitin2YTYt9io2LnZhNmK",
    "2YPYtNmD2LHYp9mK2YXZg9mG2YXZhtmH2KfYtNix2YPYqdix2KbZitiz2YbYtNmK2LfZhdin2LDYp9in2YTZgdmG2LTY",
    "qNin2KjYqti52KjYsdix2K3Zhdip2YPYp9mB2KnZitmC2YjZhNmF2LHZg9iy2YPZhNmF2KnYo9it2YXYr9mC2YTYqNmK",
    "2YrYudmG2YrYtdmI2LHYqdi32LHZitmC2LTYp9ix2YPYrNmI2KfZhNij2K7YsdmJ2YXYudmG2KfYp9io2K3Yq9i52LHZ",
    "iNi22KjYtNmD2YTZhdiz2KzZhNio2YbYp9mG2K7Yp9mE2K/Zg9iq2KfYqNmD2YTZitip2KjYr9mI2YbYo9mK2LbYp9mK",
    "2YjYrNiv2YHYsdmK2YLZg9iq2KjYqtij2YHYttmE2YXYt9io2K7Yp9mD2KvYsdio2KfYsdmD2KfZgdi22YTYp9it2YTZ",
    "idmG2YHYs9mH2KPZitin2YXYsdiv2YjYr9ij2YbZh9in2K/ZitmG2KfYp9mE2KfZhtmF2LnYsdi22KrYudmE2YXYr9in",
    "2K7ZhNmF2YXZg9mGAAAAAAAAAAABAAEAAQABAAIAAgACAAIABAAEAAQABAAAAQIDBAUGBwcGBQQDAgEACAkKCwwNDg8P",
    "Dg0MCwoJCBAREhMUFRYXFxYVFBMSERAYGRobHB0eHx8eHRwbGhkY/////wAAAAAAAAAA/////wEAAAACAAAAAgAAAAEA",
    "AAABAAAAAwAAAP//AAEAAAABAAD//wABAAAACAAIAAgACAAAAAEAAgADAAQABQAGAAc="]

def length9 : List String :=
  ["cmVzb3VyY2VzY291bnRyaWVzcXVlc3Rpb25zZXF1aXBtZW50Y29tbXVuaXR5YXZhaWxhYmxlaGlnaGxpZ2h0RFREL3ho",
    "dG1sbWFya2V0aW5na25vd2xlZGdlc29tZXRoaW5nY29udGFpbmVyZGlyZWN0aW9uc3Vic2NyaWJlYWR2ZXJ0aXNlY2hh",
    "cmFjdGVyIiB2YWx1ZT0iPC9zZWxlY3Q+QXVzdHJhbGlhIiBjbGFzcz0ic2l0dWF0aW9uYXV0aG9yaXR5Zm9sbG93aW5n",
    "cHJpbWFyaWx5b3BlcmF0aW9uY2hhbGxlbmdlZGV2ZWxvcGVkYW5vbnltb3VzZnVuY3Rpb24gZnVuY3Rpb25zY29tcGFu",
    "aWVzc3RydWN0dXJlYWdyZWVtZW50IiB0aXRsZT0icG90ZW50aWFsZWR1Y2F0aW9uYXJndW1lbnRzc2Vjb25kYXJ5Y29w",
    "eXJpZ2h0bGFuZ3VhZ2VzZXhjbHVzaXZlY29uZGl0aW9uPC9mb3JtPg0Kc3RhdGVtZW50YXR0ZW50aW9uQmlvZ3JhcGh5",
    "fSBlbHNlIHsKc29sdXRpb25zd2hlbiB0aGUgQW5hbHl0aWNzdGVtcGxhdGVzZGFuZ2Vyb3Vzc2F0ZWxsaXRlZG9jdW1l",
    "bnRzcHVibGlzaGVyaW1wb3J0YW50cHJvdG90eXBlaW5mbHVlbmNlJnJhcXVvOzwvZWZmZWN0aXZlZ2VuZXJhbGx5dHJh",
    "bnNmb3JtYmVhdXRpZnVsdHJhbnNwb3J0b3JnYW5pemVkcHVibGlzaGVkcHJvbWluZW50dW50aWwgdGhldGh1bWJuYWls",
    "TmF0aW9uYWwgLmZvY3VzKCk7b3ZlciB0aGUgbWlncmF0aW9uYW5ub3VuY2VkZm9vdGVyIj4KZXhjZXB0aW9ubGVzcyB0",
    "aGFuZXhwZW5zaXZlZm9ybWF0aW9uZnJhbWV3b3JrdGVycml0b3J5bmRpY2F0aW9uY3VycmVudGx5Y2xhc3NOYW1lY3Jp",
    "dGljaXNtdHJhZGl0aW9uZWxzZXdoZXJlQWxleGFuZGVyYXBwb2ludGVkbWF0ZXJpYWxzYnJvYWRjYXN0bWVudGlvbmVk",
    "YWZmaWxpYXRlPC9vcHRpb24+dHJlYXRtZW50ZGlmZmVyZW50L2RlZmF1bHQuUHJlc2lkZW50b25jbGljaz0iYmlvZ3Jh",
    "cGh5b3RoZXJ3aXNlcGVybWFuZW50RnJhbsOnYWlzSG9sbHl3b29kZXhwYW5zaW9uc3RhbmRhcmRzPC9zdHlsZT4KcmVk",
    "dWN0aW9uRGVjZW1iZXIgcHJlZmVycmVkQ2FtYnJpZGdlb3Bwb25lbnRzQnVzaW5lc3MgY29uZnVzaW9uPgo8dGl0bGU+",
    "cHJlc2VudGVkZXhwbGFpbmVkZG9lcyBub3Qgd29ybGR3aWRlaW50ZXJmYWNlcG9zaXRpb25zbmV3c3BhcGVyPC90YWJs",
    "ZT4KbW91bnRhaW5zbGlrZSB0aGUgZXNzZW50aWFsZmluYW5jaWFsc2VsZWN0aW9uYWN0aW9uPSIvYWJhbmRvbmVkRWR1",
    "Y2F0aW9ucGFyc2VJbnQoc3RhYmlsaXR5dW5hYmxlIHRvPC90aXRsZT4KcmVsYXRpb25zTm90ZSB0aGF0ZWZmaWNpZW50",
    "cGVyZm9ybWVkdHdvIHllYXJzU2luY2UgdGhldGhlcmVmb3Jld3JhcHBlciI+YWx0ZXJuYXRlaW5jcmVhc2VkQmF0dGxl",
    "IG9mcGVyY2VpdmVkdHJ5aW5nIHRvbmVjZXNzYXJ5cG9ydHJheWVkZWxlY3Rpb25zRWxpemFiZXRoPC9pZnJhbWU+ZGlz",
    "Y292ZXJ5aW5zdXJhbmNlcy5sZW5ndGg7bGVnZW5kYXJ5R2VvZ3JhcGh5Y2FuZGlkYXRlY29ycG9yYXRlc29tZXRpbWVz",
    "c2VydmljZXMuaW5oZXJpdGVkPC9zdHJvbmc+Q29tbXVuaXR5cmVsaWdpb3VzbG9jYXRpb25zQ29tbWl0dGVlYnVpbGRp",
    "bmdzdGhlIHdvcmxkbm8gbG9uZ2VyYmVnaW5uaW5ncmVmZXJlbmNlY2Fubm90IGJlZnJlcXVlbmN5dHlwaWNhbGx5aW50",
    "byB0aGUgcmVsYXRpdmU7cmVjb3JkaW5ncHJlc2lkZW50aW5pdGlhbGx5dGVjaG5pcXVldGhlIG90aGVyaXQgY2FuIGJl",
    "ZXhpc3RlbmNldW5kZXJsaW5ldGhpcyB0aW1ldGVsZXBob25laXRlbXNjb3BlcHJhY3RpY2VzYWR2YW50YWdlKTtyZXR1",
    "cm4gRm9yIG90aGVycHJvdmlkaW5nZGVtb2NyYWN5Ym90aCB0aGUgZXh0ZW5zaXZlc3VmZmVyaW5nc3VwcG9ydGVkY29t",
    "cHV0ZXJzIGZ1bmN0aW9ucHJhY3RpY2Fsc2FpZCB0aGF0aXQgbWF5IGJlRW5nbGlzaDwvZnJvbSB0aGUgc2NoZWR1bGVk",
    "ZG93bmxvYWRzPC9sYWJlbD4Kc3VzcGVjdGVkbWFyZ2luOiAwc3Bpcml0dWFsPC9oZWFkPgoKbWljcm9zb2Z0Z3JhZHVh",
    "bGx5ZGlzY3Vzc2VkaGUgYmVjYW1lZXhlY3V0aXZlanF1ZXJ5LmpzaG91c2Vob2xkY29uZmlybWVkcHVyY2hhc2VkbGl0",
    "ZXJhbGx5ZGVzdHJveWVkdXAgdG8gdGhldmFyaWF0aW9ucmVtYWluaW5naXQgaXMgbm90Y2VudHVyaWVzSmFwYW5lc2Ug",
    "YW1vbmcgdGhlY29tcGxldGVkYWxnb3JpdGhtaW50ZXJlc3RzcmViZWxsaW9udW5kZWZpbmVkZW5jb3VyYWdlcmVzaXph",
    "YmxlaW52b2x2aW5nc2Vuc2l0aXZldW5pdmVyc2FscHJvdmlzaW9uKGFsdGhvdWdoZmVhdHVyaW5nY29uZHVjdGVkKSwg",
    "d2hpY2ggY29udGludWVkLWhlYWRlciI+RmVicnVhcnkgbnVtZXJvdXMgb3ZlcmZsb3c6Y29tcG9uZW50ZnJhZ21lbnRz",
    "ZXhjZWxsZW50Y29sc3Bhbj0idGVjaG5pY2FsbmVhciB0aGUgQWR2YW5jZWQgc291cmNlIG9mZXhwcmVzc2VkSG9uZyBL",
    "b25nIEZhY2Vib29rbXVsdGlwbGUgbWVjaGFuaXNtZWxldmF0aW9ub2ZmZW5zaXZlPC9mb3JtPgoJc3BvbnNvcmVkZG9j",
    "dW1lbnQub3IgJnF1b3Q7dGhlcmUgYXJldGhvc2Ugd2hvbW92ZW1lbnRzcHJvY2Vzc2VzZGlmZmljdWx0c3VibWl0dGVk",
    "cmVjb21tZW5kY29udmluY2VkcHJvbW90aW5nIiB3aWR0aD0iLnJlcGxhY2UoY2xhc3NpY2FsY29hbGl0aW9uaGlzIGZp",
    "cnN0ZGVjaXNpb25zYXNzaXN0YW50aW5kaWNhdGVkZXZvbHV0aW9uLXdyYXBwZXIiZW5vdWdoIHRvYWxvbmcgdGhlZGVs",
    "aXZlcmVkLS0+DQo8IS0tQW1lcmljYW4gcHJvdGVjdGVkTm92ZW1iZXIgPC9zdHlsZT48ZnVybml0dXJlSW50ZXJuZXQg",
    "IG9uYmx1cj0ic3VzcGVuZGVkcmVjaXBpZW50YmFzZWQgb24gTW9yZW92ZXIsYWJvbGlzaGVkY29sbGVjdGVkd2VyZSBt",
    "YWRlZW1vdGlvbmFsZW1lcmdlbmN5bmFycmF0aXZlYWR2b2NhdGVzcHg7Ym9yZGVyY29tbWl0dGVkZGlyPSJsdHIiZW1w",
    "bG95ZWVzcmVzZWFyY2guIHNlbGVjdGVkc3VjY2Vzc29yY3VzdG9tZXJzZGlzcGxheWVkU2VwdGVtYmVyYWRkQ2xhc3Mo",
    "RmFjZWJvb2sgc3VnZ2VzdGVkYW5kIGxhdGVyb3BlcmF0aW5nZWxhYm9yYXRlU29tZXRpbWVzSW5zdGl0dXRlY2VydGFp",
    "bmx5aW5zdGFsbGVkZm9sbG93ZXJzSmVydXNhbGVtdGhleSBoYXZlY29tcHV0aW5nZ2VuZXJhdGVkcHJvdmluY2VzZ3Vh",
    "cmFudGVlYXJiaXRyYXJ5cmVjb2duaXpld2FudGVkIHRvcHg7d2lkdGg6dGhlb3J5IG9mYmVoYXZpb3VyV2hpbGUgdGhl",
    "ZXN0aW1hdGVkYmVnYW4gdG8gaXQgYmVjYW1lbWFnbml0dWRlbXVzdCBoYXZlbW9yZSB0aGFuRGlyZWN0b3J5ZXh0ZW5z",
    "aW9uc2VjcmV0YXJ5bmF0dXJhbGx5b2NjdXJyaW5ndmFyaWFibGVzZ2l2ZW4gdGhlcGxhdGZvcm0uPC9sYWJlbD48ZmFp",
    "bGVkIHRvY29tcG91bmRza2luZHMgb2Ygc29jaWV0aWVzYWxvbmdzaWRlIC0tJmd0OwoKc291dGh3ZXN0dGhlIHJpZ2h0",
    "cmFkaWF0aW9ubWF5IGhhdmUgdW5lc2NhcGUoc3Bva2VuIGluIiBocmVmPSIvcHJvZ3JhbW1lb25seSB0aGUgY29tZSBm",
    "cm9tZGlyZWN0b3J5YnVyaWVkIGluYSBzaW1pbGFydGhleSB3ZXJlPC9mb250PjwvTm9yd2VnaWFuc3BlY2lmaWVkcHJv",
    "ZHVjaW5ncGFzc2VuZ2VyKG5ldyBEYXRldGVtcG9yYXJ5ZmljdGlvbmFsQWZ0ZXIgdGhlZXF1YXRpb25zZG93bmxvYWQu",
    "cmVndWxhcmx5ZGV2ZWxvcGVyYWJvdmUgdGhlbGlua2VkIHRvcGhlbm9tZW5hcGVyaW9kIG9mdG9vbHRpcCI+c3Vic3Rh",
    "bmNlYXV0b21hdGljYXNwZWN0IG9mQW1vbmcgdGhlY29ubmVjdGVkZXN0aW1hdGVzQWlyIEZvcmNlc3lzdGVtIG9mb2Jq",
    "ZWN0aXZlaW1tZWRpYXRlbWFraW5nIGl0cGFpbnRpbmdzY29ucXVlcmVkYXJlIHN0aWxscHJvY2VkdXJlZ3Jvd3RoIG9m",
    "aGVhZGVkIGJ5RXVyb3BlYW4gZGl2aXNpb25zbW9sZWN1bGVzZnJhbmNoaXNlaW50ZW50aW9uYXR0cmFjdGVkY2hpbGRo",
    "b29kYWxzbyB1c2VkZGVkaWNhdGVkc2luZ2Fwb3JlZGVncmVlIG9mZmF0aGVyIG9mY29uZmxpY3RzPC9hPjwvcD4KY2Ft",
    "ZSBmcm9td2VyZSB1c2Vkbm90ZSB0aGF0cmVjZWl2aW5nRXhlY3V0aXZlZXZlbiBtb3JlYWNjZXNzIHRvY29tbWFuZGVy",
    "UG9saXRpY2FsbXVzaWNpYW5zZGVsaWNpb3VzcHJpc29uZXJzYWR2ZW50IG9mVVRGLTgiIC8+PCFbQ0RBVEFbIj5Db250",
    "YWN0U291dGhlcm4gYmdjb2xvcj0ic2VyaWVzIG9mLiBJdCB3YXMgaW4gRXVyb3BlcGVybWl0dGVkdmFsaWRhdGUuYXBw",
    "ZWFyaW5nb2ZmaWNpYWxzc2VyaW91c2x5LWxhbmd1YWdlaW5pdGlhdGVkZXh0ZW5kaW5nbG9uZy10ZXJtaW5mbGF0aW9u",
    "c3VjaCB0aGF0Z2V0Q29va2llbWFya2VkIGJ5PC9idXR0b24+aW1wbGVtZW50YnV0IGl0IGlzaW5jcmVhc2VzZG93biB0",
    "aGUgcmVxdWlyaW5nZGVwZW5kZW50LS0+CjwhLS0gaW50ZXJ2aWV3V2l0aCB0aGUgY29waWVzIG9mY29uc2Vuc3Vzd2Fz",
    "IGJ1aWx0VmVuZXp1ZWxhKGZvcm1lcmx5dGhlIHN0YXRlcGVyc29ubmVsc3RyYXRlZ2ljZmF2b3VyIG9maW52ZW50aW9u",
    "V2lraXBlZGlhY29udGluZW50dmlydHVhbGx5d2hpY2ggd2FzcHJpbmNpcGxlQ29tcGxldGUgaWRlbnRpY2Fsc2hvdyB0",
    "aGF0cHJpbWl0aXZlYXdheSBmcm9tbW9sZWN1bGFycHJlY2lzZWx5ZGlzc29sdmVkVW5kZXIgdGhldmVyc2lvbj0iPiZu",
    "YnNwOzwvSXQgaXMgdGhlIFRoaXMgaXMgd2lsbCBoYXZlb3JnYW5pc21zc29tZSB0aW1lRnJpZWRyaWNod2FzIGZpcnN0",
    "dGhlIG9ubHkgZmFjdCB0aGF0Zm9ybSBpZD0icHJlY2VkaW5nVGVjaG5pY2FscGh5c2ljaXN0b2NjdXJzIGlubmF2aWdh",
    "dG9yc2VjdGlvbiI+c3BhbiBpZD0ic291Z2h0IHRvYmVsb3cgdGhlc3Vydml2aW5nfTwvc3R5bGU+aGlzIGRlYXRoYXMg",
    "aW4gdGhlY2F1c2VkIGJ5cGFydGlhbGx5ZXhpc3RpbmcgdXNpbmcgdGhld2FzIGdpdmVuYSBsaXN0IG9mbGV2ZWxzIG9m",
    "bm90aW9uIG9mT2ZmaWNpYWwgZGlzbWlzc2Vkc2NpZW50aXN0cmVzZW1ibGVzZHVwbGljYXRlZXhwbG9zaXZlcmVjb3Zl",
    "cmVkYWxsIG90aGVyZ2FsbGVyaWVze3BhZGRpbmc6cGVvcGxlIG9mcmVnaW9uIG9mYWRkcmVzc2VzYXNzb2NpYXRlaW1n",
    "IGFsdD0iaW4gbW9kZXJuc2hvdWxkIGJlbWV0aG9kIG9mcmVwb3J0aW5ndGltZXN0YW1wbmVlZGVkIHRvdGhlIEdyZWF0",
    "cmVnYXJkaW5nc2VlbWVkIHRvdmlld2VkIGFzaW1wYWN0IG9uaWRlYSB0aGF0dGhlIFdvcmxkaGVpZ2h0IG9mZXhwYW5k",
    "aW5nVGhlc2UgYXJlY3VycmVudCI+Y2FyZWZ1bGx5bWFpbnRhaW5zY2hhcmdlIG9mQ2xhc3NpY2FsYWRkcmVzc2VkcHJl",
    "ZGljdGVkb3duZXJzaGlwPGRpdiBpZD0icmlnaHQiPg0KcmVzaWRlbmNlbGVhdmUgdGhlY29udGVudCI+YXJlIG9mdGVu",
    "ICB9KSgpOw0KcHJvYmFibHkgUHJvZmVzc29yLWJ1dHRvbiIgcmVzcG9uZGVkc2F5cyB0aGF0aGFkIHRvIGJlcGxhY2Vk",
    "IGluSHVuZ2FyaWFuc3RhdHVzIG9mc2VydmVzIGFzVW5pdmVyc2FsZXhlY3V0aW9uYWdncmVnYXRlZm9yIHdoaWNoaW5m",
    "ZWN0aW9uYWdyZWVkIHRvaG93ZXZlciwgcG9wdWxhciI+cGxhY2VkIG9uY29uc3RydWN0ZWxlY3RvcmFsc3ltYm9sIG9m",
    "aW5jbHVkaW5ncmV0dXJuIHRvYXJjaGl0ZWN0Q2hyaXN0aWFucHJldmlvdXMgbGl2aW5nIGluZWFzaWVyIHRvcHJvZmVz",
    "c29yCiZsdDshLS0gZWZmZWN0IG9mYW5hbHl0aWNzd2FzIHRha2Vud2hlcmUgdGhldG9vayBvdmVyYmVsaWVmIGluQWZy",
    "aWthYW5zYXMgZmFyIGFzcHJldmVudGVkd29yayB3aXRoYSBzcGVjaWFsPGZpZWxkc2V0Q2hyaXN0bWFzUmV0cmlldmVk",
    "CgpJbiB0aGUgYmFjayBpbnRvbm9ydGhlYXN0bWFnYXppbmVzPjxzdHJvbmc+Y29tbWl0dGVlZ292ZXJuaW5nZ3JvdXBz",
    "IG9mc3RvcmVkIGluZXN0YWJsaXNoYSBnZW5lcmFsaXRzIGZpcnN0dGhlaXIgb3ducG9wdWxhdGVkYW4gb2JqZWN0Q2Fy",
    "aWJiZWFuYWxsb3cgdGhlZGlzdHJpY3Rzd2lzY29uc2lubG9jYXRpb24uOyB3aWR0aDogaW5oYWJpdGVkU29jaWFsaXN0",
    "SmFudWFyeSAxPC9mb290ZXI+c2ltaWxhcmx5Y2hvaWNlIG9mdGhlIHNhbWUgc3BlY2lmaWMgYnVzaW5lc3MgVGhlIGZp",
    "cnN0Lmxlbmd0aDsgZGVzaXJlIHRvZGVhbCB3aXRoc2luY2UgdGhldXNlckFnZW50Y29uY2VpdmVkaW5kZXgucGhwYXMg",
    "JnF1b3Q7ZW5nYWdlIGlucmVjZW50bHksZmV3IHllYXJzd2VyZSBhbHNvCjxoZWFkPgo8ZWRpdGVkIGJ5YXJlIGtub3du",
    "Y2l0aWVzIGluYWNjZXNza2V5Y29uZGVtbmVkYWxzbyBoYXZlc2VydmljZXMsZmFtaWx5IG9mU2Nob29sIG9mY29udmVy",
    "dGVkbmF0dXJlIG9mIGxhbmd1YWdlbWluaXN0ZXJzPC9vYmplY3Q+dGhlcmUgaXMgYSBwb3B1bGFyc2VxdWVuY2VzYWR2",
    "b2NhdGVkVGhleSB3ZXJlYW55IG90aGVybG9jYXRpb249ZW50ZXIgdGhlbXVjaCBtb3JlcmVmbGVjdGVkd2FzIG5hbWVk",
    "b3JpZ2luYWwgYSB0eXBpY2Fsd2hlbiB0aGV5ZW5naW5lZXJzY291bGQgbm90cmVzaWRlbnRzd2VkbmVzZGF5dGhlIHRo",
    "aXJkIHByb2R1Y3RzSmFudWFyeSAyd2hhdCB0aGV5YSBjZXJ0YWlucmVhY3Rpb25zcHJvY2Vzc29yYWZ0ZXIgaGlzdGhl",
    "IGxhc3QgY29udGFpbmVkIj48L2Rpdj4KPC9hPjwvdGQ+ZGVwZW5kIG9uc2VhcmNoIj4KcGllY2VzIG9mY29tcGV0aW5n",
    "UmVmZXJlbmNldGVubmVzc2Vld2hpY2ggaGFzIHZlcnNpb249PC9zcGFuPiA8PC9oZWFkZXI+Z2l2ZXMgdGhlaGlzdG9y",
    "aWFudmFsdWU9IiI+cGFkZGluZzowdmlldyB0aGF0dG9nZXRoZXIsdGhlIG1vc3Qgd2FzIGZvdW5kc3Vic2V0IG9mYXR0",
    "YWNrIG9uY2hpbGRyZW4scG9pbnRzIG9mcGVyc29uYWwgcG9zaXRpb246YWxsZWdlZGx5Q2xldmVsYW5kd2FzIGxhdGVy",
    "YW5kIGFmdGVyYXJlIGdpdmVud2FzIHN0aWxsc2Nyb2xsaW5nZGVzaWduIG9mbWFrZXMgdGhlbXVjaCBsZXNzQW1lcmlj",
    "YW5zLgoKQWZ0ZXIgLCBidXQgdGhlTXVzZXVtIG9mbG91aXNpYW5hKGZyb20gdGhlbWlubmVzb3RhcGFydGljbGVzYSBw",
    "cm9jZXNzRG9taW5pY2Fudm9sdW1lIG9mcmV0dXJuaW5nZGVmZW5zaXZlMDBweHxyaWdobWFkZSBmcm9tbW91c2VvdmVy",
    "IiBzdHlsZT0ic3RhdGVzIG9mKHdoaWNoIGlzY29udGludWVzRnJhbmNpc2NvYnVpbGRpbmcgd2l0aG91dCBhd2l0aCBz",
    "b21ld2hvIHdvdWxkYSBmb3JtIG9mYSBwYXJ0IG9mYmVmb3JlIGl0a25vd24gYXMgIFNlcnZpY2VzbG9jYXRpb24gYW5k",
    "IG9mdGVubWVhc3VyaW5nYW5kIGl0IGlzcGFwZXJiYWNrdmFsdWVzIG9mDQo8dGl0bGU+PSB3aW5kb3cuZGV0ZXJtaW5l",
    "ZXImcXVvdDsgcGxheWVkIGJ5YW5kIGVhcmx5PC9jZW50ZXI+ZnJvbSB0aGlzdGhlIHRocmVlcG93ZXIgYW5kb2YgJnF1",
    "b3Q7aW5uZXJIVE1MPGEgaHJlZj0ieTppbmxpbmU7Q2h1cmNoIG9mdGhlIGV2ZW50dmVyeSBoaWdob2ZmaWNpYWwgLWhl",
    "aWdodDogY29udGVudD0iL2NnaS1iaW4vdG8gY3JlYXRlYWZyaWthYW5zZXNwZXJhbnRvZnJhbsOnYWlzbGF0dmllxaF1",
    "bGlldHV2acWzxIxlxaF0aW5hxI1lxaF0aW5h4LmE4LiX4Lii5pel5pys6Kqe566A5L2T5a2X57mB6auU5a2X7ZWc6rWt",
    "7Ja05Li65LuA5LmI6K6h566X5py656yU6K6w5pys6KiO6KuW5Y2A5pyN5Yqh5Zmo5LqS6IGU572R5oi/5Zyw5Lqn5L+x",
    "5LmQ6YOo5Ye654mI56S+5o6S6KGM5qac6YOo6JC95qC86L+b5LiA5q2l5pSv5LuY5a6d6aqM6K+B56CB5aeU5ZGY5Lya",
    "5pWw5o2u5bqT5raI6LS56ICF5Yqe5YWs5a6k6K6o6K665Yy65rex5Zyz5biC5pKt5pS+5Zmo5YyX5Lqs5biC5aSn5a2m",
    "55Sf6LaK5p2l6LaK566h55CG5ZGY5L+h5oGv572Rc2VydmljaW9zYXJ0w61jdWxvYXJnZW50aW5hYmFyY2Vsb25hY3Vh",
    "bHF1aWVycHVibGljYWRvcHJvZHVjdG9zcG9sw610aWNhcmVzcHVlc3Rhd2lraXBlZGlhc2lndWllbnRlYsO6c3F1ZWRh",
    "Y29tdW5pZGFkc2VndXJpZGFkcHJpbmNpcGFscHJlZ3VudGFzY29udGVuaWRvcmVzcG9uZGVydmVuZXp1ZWxhcHJvYmxl",
    "bWFzZGljaWVtYnJlcmVsYWNpw7Nubm92aWVtYnJlc2ltaWxhcmVzcHJveWVjdG9zcHJvZ3JhbWFzaW5zdGl0dXRvYWN0",
    "aXZpZGFkZW5jdWVudHJhZWNvbm9tw61haW3DoWdlbmVzY29udGFjdGFyZGVzY2FyZ2FybmVjZXNhcmlvYXRlbmNpw7Nu",
    "dGVsw6lmb25vY29taXNpw7NuY2FuY2lvbmVzY2FwYWNpZGFkZW5jb250cmFyYW7DoWxpc2lzZmF2b3JpdG9zdMOpcm1p",
    "bm9zcHJvdmluY2lhZXRpcXVldGFzZWxlbWVudG9zZnVuY2lvbmVzcmVzdWx0YWRvY2Fyw6FjdGVycHJvcGllZGFkcHJp",
    "bmNpcGlvbmVjZXNpZGFkbXVuaWNpcGFsY3JlYWNpw7NuZGVzY2FyZ2FzcHJlc2VuY2lhY29tZXJjaWFsb3BpbmlvbmVz",
    "ZWplcmNpY2lvZWRpdG9yaWFsc2FsYW1hbmNhZ29uesOhbGV6ZG9jdW1lbnRvcGVsw61jdWxhcmVjaWVudGVzZ2VuZXJh",
    "bGVzdGFycmFnb25hcHLDoWN0aWNhbm92ZWRhZGVzcHJvcHVlc3RhcGFjaWVudGVzdMOpY25pY2Fzb2JqZXRpdm9zY29u",
    "dGFjdG9z4KSu4KWH4KSC4KSy4KS/4KSP4KS54KWI4KSC4KSX4KSv4KS+4KS44KS+4KSl4KSP4KS14KSC4KSw4KS54KWH",
    "4KSV4KWL4KSI4KSV4KWB4KSb4KSw4KS54KS+4KSs4KS+4KSm4KSV4KS54KS+4KS44KSt4KWA4KS54KWB4KSP4KSw4KS5",
    "4KWA4KSu4KWI4KSC4KSm4KS/4KSo4KSs4KS+4KSkZGlwbG9kb2Nz4KS44KSu4KSv4KSw4KWC4KSq4KSo4KS+4KSu4KSq",
    "4KSk4KS+4KSr4KS/4KSw4KSU4KS44KSk4KSk4KSw4KS54KSy4KWL4KSX4KS54KWB4KSG4KSs4KS+4KSw4KSm4KWH4KS2",
    "4KS54KWB4KSI4KSW4KWH4KSy4KSv4KSm4KS/4KSV4KS+4KSu4KS14KWH4KSs4KSk4KWA4KSo4KSs4KWA4KSa4KSu4KWM",
    "4KSk4KS44KS+4KSy4KSy4KWH4KSW4KSc4KWJ4KSs4KSu4KSm4KSm4KSk4KSl4KS+4KSo4KS54KWA4KS24KS54KSw4KSF",
    "4KSy4KSX4KSV4KSt4KWA4KSo4KSX4KSw4KSq4KS+4KS44KSw4KS+4KSk4KSV4KS/4KSP4KSJ4KS44KWH4KSX4KSv4KWA",
    "4KS54KWC4KSB4KSG4KSX4KWH4KSf4KWA4KSu4KSW4KWL4KSc4KSV4KS+4KSw4KSF4KSt4KWA4KSX4KSv4KWH4KSk4KWB",
    "4KSu4KS14KWL4KSf4KSm4KWH4KSC4KSF4KSX4KSw4KSQ4KS44KWH4KSu4KWH4KSy4KSy4KSX4KS+4KS54KS+4KSy4KSK",
    "4KSq4KSw4KSa4KS+4KSw4KSQ4KS44KS+4KSm4KWH4KSw4KSc4KS/4KS44KSm4KS/4KSy4KSs4KSC4KSm4KSs4KSo4KS+",
    "4KS54KWC4KSC4KSy4KS+4KSW4KSc4KWA4KSk4KSs4KSf4KSo4KSu4KS/4KSy4KSH4KS44KWH4KSG4KSo4KWH4KSo4KSv",
    "4KS+4KSV4KWB4KSy4KSy4KWJ4KSX4KSt4KS+4KSX4KSw4KWH4KSy4KSc4KSX4KS54KSw4KS+4KSu4KSy4KSX4KWH4KSq",
    "4KWH4KSc4KS54KS+4KSl4KSH4KS44KWA4KS44KS54KWA4KSV4KSy4KS+4KSg4KWA4KSV4KS54KS+4KSB4KSm4KWC4KSw",
    "4KSk4KS54KSk4KS44KS+4KSk4KSv4KS+4KSm4KSG4KSv4KS+4KSq4KS+4KSV4KSV4KWM4KSo4KS24KS+4KSu4KSm4KWH",
    "4KSW4KSv4KS54KWA4KSw4KS+4KSv4KSW4KWB4KSm4KSy4KSX4KWA"]

def length10 : List String :=
  ["Y2F0ZWdvcmllc2V4cGVyaWVuY2U8L3RpdGxlPg0KQ29weXJpZ2h0IGphdmFzY3JpcHRjb25kaXRpb25zZXZlcnl0aGlu",
    "ZzxwIGNsYXNzPSJ0ZWNobm9sb2d5YmFja2dyb3VuZDxhIGNsYXNzPSJtYW5hZ2VtZW50JmNvcHk7IDIwMWphdmFTY3Jp",
    "cHRjaGFyYWN0ZXJzYnJlYWRjcnVtYnRoZW1zZWx2ZXNob3Jpem9udGFsZ292ZXJubWVudENhbGlmb3JuaWFhY3Rpdml0",
    "aWVzZGlzY292ZXJlZE5hdmlnYXRpb250cmFuc2l0aW9uY29ubmVjdGlvbm5hdmlnYXRpb25hcHBlYXJhbmNlPC90aXRs",
    "ZT48bWNoZWNrYm94IiB0ZWNobmlxdWVzcHJvdGVjdGlvbmFwcGFyZW50bHlhcyB3ZWxsIGFzdW50JywgJ1VBLXJlc29s",
    "dXRpb25vcGVyYXRpb25zdGVsZXZpc2lvbnRyYW5zbGF0ZWRXYXNoaW5ndG9ubmF2aWdhdG9yLiA9IHdpbmRvdy5pbXBy",
    "ZXNzaW9uJmx0O2JyJmd0O2xpdGVyYXR1cmVwb3B1bGF0aW9uYmdjb2xvcj0iI2VzcGVjaWFsbHkgY29udGVudD0icHJv",
    "ZHVjdGlvbm5ld3NsZXR0ZXJwcm9wZXJ0aWVzZGVmaW5pdGlvbmxlYWRlcnNoaXBUZWNobm9sb2d5UGFybGlhbWVudGNv",
    "bXBhcmlzb251bCBjbGFzcz0iLmluZGV4T2YoImNvbmNsdXNpb25kaXNjdXNzaW9uY29tcG9uZW50c2Jpb2xvZ2ljYWxS",
    "ZXZvbHV0aW9uX2NvbnRhaW5lcnVuZGVyc3Rvb2Rub3NjcmlwdD48cGVybWlzc2lvbmVhY2ggb3RoZXJhdG1vc3BoZXJl",
    "IG9uZm9jdXM9Ijxmb3JtIGlkPSJwcm9jZXNzaW5ndGhpcy52YWx1ZWdlbmVyYXRpb25Db25mZXJlbmNlc3Vic2VxdWVu",
    "dHdlbGwta25vd252YXJpYXRpb25zcmVwdXRhdGlvbnBoZW5vbWVub25kaXNjaXBsaW5lbG9nby5wbmciIChkb2N1bWVu",
    "dCxib3VuZGFyaWVzZXhwcmVzc2lvbnNldHRsZW1lbnRCYWNrZ3JvdW5kb3V0IG9mIHRoZWVudGVycHJpc2UoImh0dHBz",
    "OiIgdW5lc2NhcGUoInBhc3N3b3JkIiBkZW1vY3JhdGljPGEgaHJlZj0iL3dyYXBwZXIiPgptZW1iZXJzaGlwbGluZ3Vp",
    "c3RpY3B4O3BhZGRpbmdwaGlsb3NvcGh5YXNzaXN0YW5jZXVuaXZlcnNpdHlmYWNpbGl0aWVzcmVjb2duaXplZHByZWZl",
    "cmVuY2VpZiAodHlwZW9mbWFpbnRhaW5lZHZvY2FidWxhcnloeXBvdGhlc2lzLnN1Ym1pdCgpOyZhbXA7bmJzcDthbm5v",
    "dGF0aW9uYmVoaW5kIHRoZUZvdW5kYXRpb25wdWJsaXNoZXIiYXNzdW1wdGlvbmludHJvZHVjZWRjb3JydXB0aW9uc2Np",
    "ZW50aXN0c2V4cGxpY2l0bHlpbnN0ZWFkIG9mZGltZW5zaW9ucyBvbkNsaWNrPSJjb25zaWRlcmVkZGVwYXJ0bWVudG9j",
    "Y3VwYXRpb25zb29uIGFmdGVyaW52ZXN0bWVudHByb25vdW5jZWRpZGVudGlmaWVkZXhwZXJpbWVudE1hbmFnZW1lbnRn",
    "ZW9ncmFwaGljIiBoZWlnaHQ9ImxpbmsgcmVsPSIucmVwbGFjZSgvZGVwcmVzc2lvbmNvbmZlcmVuY2VwdW5pc2htZW50",
    "ZWxpbWluYXRlZHJlc2lzdGFuY2VhZGFwdGF0aW9ub3Bwb3NpdGlvbndlbGwga25vd25zdXBwbGVtZW50ZGV0ZXJtaW5l",
    "ZGgxIGNsYXNzPSIwcHg7bWFyZ2lubWVjaGFuaWNhbHN0YXRpc3RpY3NjZWxlYnJhdGVkR292ZXJubWVudAoKRHVyaW5n",
    "IHRkZXZlbG9wZXJzYXJ0aWZpY2lhbGVxdWl2YWxlbnRvcmlnaW5hdGVkQ29tbWlzc2lvbmF0dGFjaG1lbnQ8c3BhbiBp",
    "ZD0idGhlcmUgd2VyZU5lZGVybGFuZHNiZXlvbmQgdGhlcmVnaXN0ZXJlZGpvdXJuYWxpc3RmcmVxdWVudGx5YWxsIG9m",
    "IHRoZWxhbmc9ImVuIiA8L3N0eWxlPg0KYWJzb2x1dGU7IHN1cHBvcnRpbmdleHRyZW1lbHkgbWFpbnN0cmVhbTwvc3Ry",
    "b25nPiBwb3B1bGFyaXR5ZW1wbG95bWVudDwvdGFibGU+DQogY29sc3Bhbj0iPC9mb3JtPgogIGNvbnZlcnNpb25hYm91",
    "dCB0aGUgPC9wPjwvZGl2PmludGVncmF0ZWQiIGxhbmc9ImVuUG9ydHVndWVzZXN1YnN0aXR1dGVpbmRpdmlkdWFsaW1w",
    "b3NzaWJsZW11bHRpbWVkaWFhbG1vc3QgYWxscHggc29saWQgI2FwYXJ0IGZyb21zdWJqZWN0IHRvaW4gRW5nbGlzaGNy",
    "aXRpY2l6ZWRleGNlcHQgZm9yZ3VpZGVsaW5lc29yaWdpbmFsbHlyZW1hcmthYmxldGhlIHNlY29uZGgyIGNsYXNzPSI8",
    "YSB0aXRsZT0iKGluY2x1ZGluZ3BhcmFtZXRlcnNwcm9oaWJpdGVkPSAiaHR0cDovL2RpY3Rpb25hcnlwZXJjZXB0aW9u",
    "cmV2b2x1dGlvbmZvdW5kYXRpb25weDtoZWlnaHQ6c3VjY2Vzc2Z1bHN1cHBvcnRlcnNtaWxsZW5uaXVtaGlzIGZhdGhl",
    "cnRoZSAmcXVvdDtuby1yZXBlYXQ7Y29tbWVyY2lhbGluZHVzdHJpYWxlbmNvdXJhZ2VkYW1vdW50IG9mIHVub2ZmaWNp",
    "YWxlZmZpY2llbmN5UmVmZXJlbmNlc2Nvb3JkaW5hdGVkaXNjbGFpbWVyZXhwZWRpdGlvbmRldmVsb3BpbmdjYWxjdWxh",
    "dGVkc2ltcGxpZmllZGxlZ2l0aW1hdGVzdWJzdHJpbmcoMCIgY2xhc3M9ImNvbXBsZXRlbHlpbGx1c3RyYXRlZml2ZSB5",
    "ZWFyc2luc3RydW1lbnRQdWJsaXNoaW5nMSIgY2xhc3M9InBzeWNob2xvZ3ljb25maWRlbmNlbnVtYmVyIG9mIGFic2Vu",
    "Y2Ugb2Zmb2N1c2VkIG9uam9pbmVkIHRoZXN0cnVjdHVyZXNwcmV2aW91c2x5PjwvaWZyYW1lPm9uY2UgYWdhaW5idXQg",
    "cmF0aGVyaW1taWdyYW50c29mIGNvdXJzZSxhIGdyb3VwIG9mTGl0ZXJhdHVyZVVubGlrZSB0aGU8L2E+Jm5ic3A7CmZ1",
    "bmN0aW9uIGl0IHdhcyB0aGVDb252ZW50aW9uYXV0b21vYmlsZVByb3Rlc3RhbnRhZ2dyZXNzaXZlYWZ0ZXIgdGhlIFNp",
    "bWlsYXJseSwiIC8+PC9kaXY+Y29sbGVjdGlvbg0KZnVuY3Rpb252aXNpYmlsaXR5dGhlIHVzZSBvZnZvbHVudGVlcnNh",
    "dHRyYWN0aW9udW5kZXIgdGhlIHRocmVhdGVuZWQqPCFbQ0RBVEFbaW1wb3J0YW5jZWluIGdlbmVyYWx0aGUgbGF0dGVy",
    "PC9mb3JtPgo8Ly5pbmRleE9mKCdpID0gMDsgaSA8ZGlmZmVyZW5jZWRldm90ZWQgdG90cmFkaXRpb25zc2VhcmNoIGZv",
    "cnVsdGltYXRlbHl0b3VybmFtZW50YXR0cmlidXRlc3NvLWNhbGxlZCB9Cjwvc3R5bGU+ZXZhbHVhdGlvbmVtcGhhc2l6",
    "ZWRhY2Nlc3NpYmxlPC9zZWN0aW9uPnN1Y2Nlc3Npb25hbG9uZyB3aXRoTWVhbndoaWxlLGluZHVzdHJpZXM8L2E+PGJy",
    "IC8+aGFzIGJlY29tZWFzcGVjdHMgb2ZUZWxldmlzaW9uc3VmZmljaWVudGJhc2tldGJhbGxib3RoIHNpZGVzY29udGlu",
    "dWluZ2FuIGFydGljbGU8aW1nIGFsdD0iYWR2ZW50dXJlc2hpcyBtb3RoZXJtYW5jaGVzdGVycHJpbmNpcGxlc3BhcnRp",
    "Y3VsYXJjb21tZW50YXJ5ZWZmZWN0cyBvZmRlY2lkZWQgdG8iPjxzdHJvbmc+cHVibGlzaGVyc0pvdXJuYWwgb2ZkaWZm",
    "aWN1bHR5ZmFjaWxpdGF0ZWFjY2VwdGFibGVzdHlsZS5jc3MiCWZ1bmN0aW9uIGlubm92YXRpb24+Q29weXJpZ2h0c2l0",
    "dWF0aW9uc3dvdWxkIGhhdmVidXNpbmVzc2VzRGljdGlvbmFyeXN0YXRlbWVudHNvZnRlbiB1c2VkcGVyc2lzdGVudGlu",
    "IEphbnVhcnljb21wcmlzaW5nPC90aXRsZT4KCWRpcGxvbWF0aWNjb250YWluaW5ncGVyZm9ybWluZ2V4dGVuc2lvbnNt",
    "YXkgbm90IGJlY29uY2VwdCBvZiBvbmNsaWNrPSJJdCBpcyBhbHNvZmluYW5jaWFsIG1ha2luZyB0aGVMdXhlbWJvdXJn",
    "YWRkaXRpb25hbGFyZSBjYWxsZWRlbmdhZ2VkIGluInNjcmlwdCIpO2J1dCBpdCB3YXNlbGVjdHJvbmljb25zdWJtaXQ9",
    "Igo8IS0tIEVuZCBlbGVjdHJpY2Fsb2ZmaWNpYWxseXN1Z2dlc3Rpb250b3Agb2YgdGhldW5saWtlIHRoZUF1c3RyYWxp",
    "YW5PcmlnaW5hbGx5cmVmZXJlbmNlcwo8L2hlYWQ+DQpyZWNvZ25pc2VkaW5pdGlhbGl6ZWxpbWl0ZWQgdG9BbGV4YW5k",
    "cmlhcmV0aXJlbWVudEFkdmVudHVyZXNmb3VyIHllYXJzCgombHQ7IS0tIGluY3JlYXNpbmdkZWNvcmF0aW9uaDMgY2xh",
    "c3M9Im9yaWdpbnMgb2ZvYmxpZ2F0aW9ucmVndWxhdGlvbmNsYXNzaWZpZWQoZnVuY3Rpb24oYWR2YW50YWdlc2JlaW5n",
    "IHRoZSBoaXN0b3JpYW5zPGJhc2UgaHJlZnJlcGVhdGVkbHl3aWxsaW5nIHRvY29tcGFyYWJsZWRlc2lnbmF0ZWRub21p",
    "bmF0aW9uZnVuY3Rpb25hbGluc2lkZSB0aGVyZXZlbGF0aW9uZW5kIG9mIHRoZXMgZm9yIHRoZSBhdXRob3JpemVkcmVm",
    "dXNlZCB0b3Rha2UgcGxhY2VhdXRvbm9tb3VzY29tcHJvbWlzZXBvbGl0aWNhbCByZXN0YXVyYW50dHdvIG9mIHRoZUZl",
    "YnJ1YXJ5IDJxdWFsaXR5IG9mc3dmb2JqZWN0LnVuZGVyc3RhbmRuZWFybHkgYWxsd3JpdHRlbiBieWludGVydmlld3Mi",
    "IHdpZHRoPSIxd2l0aGRyYXdhbGZsb2F0OmxlZnRpcyB1c3VhbGx5Y2FuZGlkYXRlc25ld3NwYXBlcnNteXN0ZXJpb3Vz",
    "RGVwYXJ0bWVudGJlc3Qga25vd25wYXJsaWFtZW50c3VwcHJlc3NlZGNvbnZlbmllbnRyZW1lbWJlcmVkZGlmZmVyZW50",
    "IHN5c3RlbWF0aWNoYXMgbGVkIHRvcHJvcGFnYW5kYWNvbnRyb2xsZWRpbmZsdWVuY2VzY2VyZW1vbmlhbHByb2NsYWlt",
    "ZWRQcm90ZWN0aW9ubGkgY2xhc3M9IlNjaWVudGlmaWNjbGFzcz0ibm8tdHJhZGVtYXJrc21vcmUgdGhhbiB3aWRlc3By",
    "ZWFkTGliZXJhdGlvbnRvb2sgcGxhY2VkYXkgb2YgdGhlYXMgbG9uZyBhc2ltcHJpc29uZWRBZGRpdGlvbmFsCjxoZWFk",
    "Pgo8bUxhYm9yYXRvcnlOb3ZlbWJlciAyZXhjZXB0aW9uc0luZHVzdHJpYWx2YXJpZXR5IG9mZmxvYXQ6IGxlZkR1cmlu",
    "ZyB0aGVhc3Nlc3NtZW50aGF2ZSBiZWVuIGRlYWxzIHdpdGhTdGF0aXN0aWNzb2NjdXJyZW5jZS91bD48L2Rpdj5jbGVh",
    "cmZpeCI+dGhlIHB1YmxpY21hbnkgeWVhcnN3aGljaCB3ZXJlb3ZlciB0aW1lLHN5bm9ueW1vdXNjb250ZW50Ij4KcHJl",
    "c3VtYWJseWhpcyBmYW1pbHl1c2VyQWdlbnQudW5leHBlY3RlZGluY2x1ZGluZyBjaGFsbGVuZ2VkYSBtaW5vcml0eXVu",
    "ZGVmaW5lZCJiZWxvbmdzIHRvdGFrZW4gZnJvbWluIE9jdG9iZXJwb3NpdGlvbjogc2FpZCB0byBiZXJlbGlnaW91cyBG",
    "ZWRlcmF0aW9uIHJvd3NwYW49Im9ubHkgYSBmZXdtZWFudCB0aGF0bGVkIHRvIHRoZS0tPg0KPGRpdiA8ZmllbGRzZXQ+",
    "QXJjaGJpc2hvcCBjbGFzcz0ibm9iZWluZyB1c2VkYXBwcm9hY2hlc3ByaXZpbGVnZXNub3NjcmlwdD4KcmVzdWx0cyBp",
    "bm1heSBiZSB0aGVFYXN0ZXIgZWdnbWVjaGFuaXNtc3JlYXNvbmFibGVQb3B1bGF0aW9uQ29sbGVjdGlvbnNlbGVjdGVk",
    "Ij5ub3NjcmlwdD4NL2luZGV4LnBocGFycml2YWwgb2YtanNzZGsnKSk7bWFuYWdlZCB0b2luY29tcGxldGVjYXN1YWx0",
    "aWVzY29tcGxldGlvbkNocmlzdGlhbnNTZXB0ZW1iZXIgYXJpdGhtZXRpY3Byb2NlZHVyZXNtaWdodCBoYXZlUHJvZHVj",
    "dGlvbml0IGFwcGVhcnNQaGlsb3NvcGh5ZnJpZW5kc2hpcGxlYWRpbmcgdG9naXZpbmcgdGhldG93YXJkIHRoZWd1YXJh",
    "bnRlZWRkb2N1bWVudGVkY29sb3I6IzAwMHZpZGVvIGdhbWVjb21taXNzaW9ucmVmbGVjdGluZ2NoYW5nZSB0aGVhc3Nv",
    "Y2lhdGVkc2Fucy1zZXJpZm9ua2V5cHJlc3M7IHBhZGRpbmc6SGUgd2FzIHRoZXVuZGVybHlpbmd0eXBpY2FsbHkgLCBh",
    "bmQgdGhlIHNyY0VsZW1lbnRzdWNjZXNzaXZlc2luY2UgdGhlIHNob3VsZCBiZSBuZXR3b3JraW5nYWNjb3VudGluZ3Vz",
    "ZSBvZiB0aGVsb3dlciB0aGFuc2hvd3MgdGhhdDwvc3Bhbj4KCQljb21wbGFpbnRzY29udGludW91c3F1YW50aXRpZXNh",
    "c3Ryb25vbWVyaGUgZGlkIG5vdGR1ZSB0byBpdHNhcHBsaWVkIHRvYW4gYXZlcmFnZWVmZm9ydHMgdG90aGUgZnV0dXJl",
    "YXR0ZW1wdCB0b1RoZXJlZm9yZSxjYXBhYmlsaXR5UmVwdWJsaWNhbndhcyBmb3JtZWRFbGVjdHJvbmlja2lsb21ldGVy",
    "c2NoYWxsZW5nZXNwdWJsaXNoaW5ndGhlIGZvcm1lcmluZGlnZW5vdXNkaXJlY3Rpb25zc3Vic2lkaWFyeWNvbnNwaXJh",
    "Y3lkZXRhaWxzIG9mYW5kIGluIHRoZWFmZm9yZGFibGVzdWJzdGFuY2VzcmVhc29uIGZvcmNvbnZlbnRpb25pdGVtdHlw",
    "ZT0iYWJzb2x1dGVseXN1cHBvc2VkbHlyZW1haW5lZCBhYXR0cmFjdGl2ZXRyYXZlbGxpbmdzZXBhcmF0ZWx5Zm9jdXNl",
    "cyBvbmVsZW1lbnRhcnlhcHBsaWNhYmxlZm91bmQgdGhhdHN0eWxlc2hlZXRtYW51c2NyaXB0c3RhbmRzIGZvciBuby1y",
    "ZXBlYXQoc29tZXRpbWVzQ29tbWVyY2lhbGluIEFtZXJpY2F1bmRlcnRha2VucXVhcnRlciBvZmFuIGV4YW1wbGVwZXJz",
    "b25hbGx5aW5kZXgucGhwPzwvYnV0dG9uPgpwZXJjZW50YWdlYmVzdC1rbm93bmNyZWF0aW5nIGEiIGRpcj0ibHRyTGll",
    "dXRlbmFudAo8ZGl2IGlkPSJ0aGV5IHdvdWxkYWJpbGl0eSBvZm1hZGUgdXAgb2Zub3RlZCB0aGF0Y2xlYXIgdGhhdGFy",
    "Z3VlIHRoYXR0byBhbm90aGVyY2hpbGRyZW4nc3B1cnBvc2Ugb2Zmb3JtdWxhdGVkYmFzZWQgdXBvbnRoZSByZWdpb25z",
    "dWJqZWN0IG9mcGFzc2VuZ2Vyc3Bvc3Nlc3Npb24uCgpJbiB0aGUgQmVmb3JlIHRoZWFmdGVyd2FyZHNjdXJyZW50bHkg",
    "YWNyb3NzIHRoZXNjaWVudGlmaWNjb21tdW5pdHkuY2FwaXRhbGlzbWluIEdlcm1hbnlyaWdodC13aW5ndGhlIHN5c3Rl",
    "bVNvY2lldHkgb2Zwb2xpdGljaWFuZGlyZWN0aW9uOndlbnQgb24gdG9yZW1vdmFsIG9mIE5ldyBZb3JrIGFwYXJ0bWVu",
    "dHNpbmRpY2F0aW9uZHVyaW5nIHRoZXVubGVzcyB0aGVoaXN0b3JpY2FsaGFkIGJlZW4gYWRlZmluaXRpdmVpbmdyZWRp",
    "ZW50YXR0ZW5kYW5jZUNlbnRlciBmb3Jwcm9taW5lbmNlcmVhZHlTdGF0ZXN0cmF0ZWdpZXNidXQgaW4gdGhlYXMgcGFy",
    "dCBvZmNvbnN0aXR1dGVjbGFpbSB0aGF0bGFib3JhdG9yeWNvbXBhdGlibGVmYWlsdXJlIG9mLCBzdWNoIGFzIGJlZ2Fu",
    "IHdpdGh1c2luZyB0aGUgdG8gcHJvdmlkZWZlYXR1cmUgb2Zmcm9tIHdoaWNoLyIgY2xhc3M9Imdlb2xvZ2ljYWxzZXZl",
    "cmFsIG9mZGVsaWJlcmF0ZWltcG9ydGFudCBob2xkcyB0aGF0aW5nJnF1b3Q7IHZhbGlnbj10b3B0aGUgR2VybWFub3V0",
    "c2lkZSBvZm5lZ290aWF0ZWRoaXMgY2FyZWVyc2VwYXJhdGlvbmlkPSJzZWFyY2h3YXMgY2FsbGVkdGhlIGZvdXJ0aHJl",
    "Y3JlYXRpb25vdGhlciB0aGFucHJldmVudGlvbndoaWxlIHRoZSBlZHVjYXRpb24sY29ubmVjdGluZ2FjY3VyYXRlbHl3",
    "ZXJlIGJ1aWx0d2FzIGtpbGxlZGFncmVlbWVudHNtdWNoIG1vcmUgRHVlIHRvIHRoZXdpZHRoOiAxMDBzb21lIG90aGVy",
    "S2luZ2RvbSBvZnRoZSBlbnRpcmVmYW1vdXMgZm9ydG8gY29ubmVjdG9iamVjdGl2ZXN0aGUgRnJlbmNocGVvcGxlIGFu",
    "ZGZlYXR1cmVkIj5pcyBzYWlkIHRvc3RydWN0dXJhbHJlZmVyZW5kdW1tb3N0IG9mdGVuYSBzZXBhcmF0ZS0+CjxkaXYg",
    "aWQgT2ZmaWNpYWwgd29ybGR3aWRlLmFyaWEtbGFiZWx0aGUgcGxhbmV0YW5kIGl0IHdhc2QiIHZhbHVlPSJsb29raW5n",
    "IGF0YmVuZWZpY2lhbGFyZSBpbiB0aGVtb25pdG9yaW5ncmVwb3J0ZWRseXRoZSBtb2Rlcm53b3JraW5nIG9uYWxsb3dl",
    "ZCB0b3doZXJlIHRoZSBpbm5vdmF0aXZlPC9hPjwvZGl2PnNvdW5kdHJhY2tzZWFyY2hGb3JtdGVuZCB0byBiZWlucHV0",
    "IGlkPSJvcGVuaW5nIG9mcmVzdHJpY3RlZGFkb3B0ZWQgYnlhZGRyZXNzaW5ndGhlb2xvZ2lhbm1ldGhvZHMgb2Z2YXJp",
    "YW50IG9mQ2hyaXN0aWFuIHZlcnkgbGFyZ2VhdXRvbW90aXZlYnkgZmFyIHRoZXJhbmdlIGZyb21wdXJzdWl0IG9mZm9s",
    "bG93IHRoZWJyb3VnaHQgdG9pbiBFbmdsYW5kYWdyZWUgdGhhdGFjY3VzZWQgb2Zjb21lcyBmcm9tcHJldmVudGluZ2Rp",
    "diBzdHlsZT1oaXMgb3IgaGVydHJlbWVuZG91c2ZyZWVkb20gb2Zjb25jZXJuaW5nMCAxZW0gMWVtO0Jhc2tldGJhbGwv",
    "c3R5bGUuY3NzYW4gZWFybGllcmV2ZW4gYWZ0ZXIvIiB0aXRsZT0iLmNvbS9pbmRleHRha2luZyB0aGVwaXR0c2J1cmdo",
    "Y29udGVudCI+DTxzY3JpcHQ+KGZ0dXJuZWQgb3V0aGF2aW5nIHRoZTwvc3Bhbj4NCiBvY2Nhc2lvbmFsYmVjYXVzZSBp",
    "dHN0YXJ0ZWQgdG9waHlzaWNhbGx5PjwvZGl2PgogIGNyZWF0ZWQgYnlDdXJyZW50bHksIGJnY29sb3I9InRhYmluZGV4",
    "PSJkaXNhc3Ryb3VzQW5hbHl0aWNzIGFsc28gaGFzIGE+PGRpdiBpZD0iPC9zdHlsZT4KPGNhbGxlZCBmb3JzaW5nZXIg",
    "YW5kLnNyYyA9ICIvL3Zpb2xhdGlvbnN0aGlzIHBvaW50Y29uc3RhbnRseWlzIGxvY2F0ZWRyZWNvcmRpbmdzZCBmcm9t",
    "IHRoZW5lZGVybGFuZHNwb3J0dWd1w6pz16LXkdeo15nXqtmB2KfYsdiz24xkZXNhcnJvbGxvY29tZW50YXJpb2VkdWNh",
    "Y2nDs25zZXB0aWVtYnJlcmVnaXN0cmFkb2RpcmVjY2nDs251YmljYWNpw7NucHVibGljaWRhZHJlc3B1ZXN0YXNyZXN1",
    "bHRhZG9zaW1wb3J0YW50ZXJlc2VydmFkb3NhcnTDrWN1bG9zZGlmZXJlbnRlc3NpZ3VpZW50ZXNyZXDDumJsaWNhc2l0",
    "dWFjacOzbm1pbmlzdGVyaW9wcml2YWNpZGFkZGlyZWN0b3Jpb2Zvcm1hY2nDs25wb2JsYWNpw7NucHJlc2lkZW50ZWNv",
    "bnRlbmlkb3NhY2Nlc29yaW9zdGVjaG5vcmF0aXBlcnNvbmFsZXNjYXRlZ29yw61hZXNwZWNpYWxlc2Rpc3BvbmlibGVh",
    "Y3R1YWxpZGFkcmVmZXJlbmNpYXZhbGxhZG9saWRiaWJsaW90ZWNhcmVsYWNpb25lc2NhbGVuZGFyaW9wb2zDrXRpY2Fz",
    "YW50ZXJpb3Jlc2RvY3VtZW50b3NuYXR1cmFsZXphbWF0ZXJpYWxlc2RpZmVyZW5jaWFlY29uw7NtaWNhdHJhbnNwb3J0",
    "ZXJvZHLDrWd1ZXpwYXJ0aWNpcGFyZW5jdWVudHJhbmRpc2N1c2nDs25lc3RydWN0dXJhZnVuZGFjacOzbmZyZWN1ZW50",
    "ZXNwZXJtYW5lbnRldG90YWxtZW50ZdC80L7QttC90L7QsdGD0LTQtdGC0LzQvtC20LXRgtCy0YDQtdC80Y/RgtCw0LrQ",
    "ttC10YfRgtC+0LHRi9Cx0L7Qu9C10LXQvtGH0LXQvdGM0Y3RgtC+0LPQvtC60L7Qs9C00LDQv9C+0YHQu9C10LLRgdC1",
    "0LPQvtGB0LDQudGC0LXRh9C10YDQtdC30LzQvtCz0YPRgtGB0LDQudGC0LDQttC40LfQvdC40LzQtdC20LTRg9Cx0YPQ",
    "tNGD0YLQn9C+0LjRgdC60LfQtNC10YHRjNCy0LjQtNC10L7RgdCy0Y/Qt9C40L3Rg9C20L3QvtGB0LLQvtC10LnQu9GO",
    "0LTQtdC50L/QvtGA0L3QvtC80L3QvtCz0L7QtNC10YLQtdC50YHQstC+0LjRhdC/0YDQsNCy0LDRgtCw0LrQvtC50LzQ",
    "tdGB0YLQvtC40LzQtdC10YLQttC40LfQvdGM0L7QtNC90L7QudC70YPRh9GI0LXQv9C10YDQtdC00YfQsNGB0YLQuNGH",
    "0LDRgdGC0YzRgNCw0LHQvtGC0L3QvtCy0YvRhdC/0YDQsNCy0L7RgdC+0LHQvtC50L/QvtGC0L7QvNC80LXQvdC10LXR",
    "h9C40YHQu9C10L3QvtCy0YvQtdGD0YHQu9GD0LPQvtC60L7Qu9C+0L3QsNC30LDQtNGC0LDQutC+0LXRgtC+0LPQtNCw",
    "0L/QvtGH0YLQuNCf0L7RgdC70LXRgtCw0LrQuNC10L3QvtCy0YvQudGB0YLQvtC40YLRgtCw0LrQuNGF0YHRgNCw0LfR",
    "g9Ch0LDQvdC60YLRhNC+0YDRg9C80JrQvtCz0LTQsNC60L3QuNCz0LjRgdC70L7QstCw0L3QsNGI0LXQudC90LDQudGC",
    "0LjRgdCy0L7QuNC80YHQstGP0LfRjNC70Y7QsdC+0LnRh9Cw0YHRgtC+0YHRgNC10LTQuNCa0YDQvtC80LXQpNC+0YDR",
    "g9C80YDRi9C90LrQtdGB0YLQsNC70LjQv9C+0LjRgdC60YLRi9GB0Y/Rh9C80LXRgdGP0YbRhtC10L3RgtGA0YLRgNGD",
    "0LTQsNGB0LDQvNGL0YXRgNGL0L3QutCw0J3QvtCy0YvQudGH0LDRgdC+0LLQvNC10YHRgtCw0YTQuNC70YzQvNC80LDR",
    "gNGC0LDRgdGC0YDQsNC90LzQtdGB0YLQtdGC0LXQutGB0YLQvdCw0YjQuNGF0LzQuNC90YPRgtC40LzQtdC90LjQuNC8",
    "0LXRjtGC0L3QvtC80LXRgNCz0L7RgNC+0LTRgdCw0LzQvtC80Y3RgtC+0LzRg9C60L7QvdGG0LXRgdCy0L7QtdC80LrQ",
    "sNC60L7QudCQ0YDRhdC40LLZhdmG2KrYr9mJ2KXYsdiz2KfZhNix2LPYp9mE2KnYp9mE2LnYp9mF2YPYqtio2YfYp9io",
    "2LHYp9mF2KzYp9mE2YrZiNmF2KfZhNi12YjYsdis2K/Zitiv2KnYp9mE2LnYttmI2KXYttin2YHYqdin2YTZgtiz2YXY",
    "p9mE2LnYp9io2KrYrdmF2YrZhNmF2YTZgdin2KrZhdmE2KrZgtmJ2KrYudiv2YrZhNin2YTYtNi52LHYo9iu2KjYp9ix",
    "2KrYt9mI2YrYsdi52YTZitmD2YXYpdix2YHYp9mC2LfZhNio2KfYqtin2YTZhNi62KnYqtix2KrZitio2KfZhNmG2KfY",
    "s9in2YTYtNmK2K7ZhdmG2KrYr9mK2KfZhNi52LHYqNin2YTZgti12LXYp9mB2YTYp9mF2LnZhNmK2YfYp9iq2K3Yr9mK",
    "2KvYp9mE2YTZh9mF2KfZhNi52YXZhNmF2YPYqtio2KnZitmF2YPZhtmD2KfZhNi32YHZhNmB2YrYr9mK2YjYpdiv2KfY",
    "sdip2KrYp9ix2YrYrtin2YTYtdit2KnYqtiz2KzZitmE2KfZhNmI2YLYqti52YbYr9mF2KfZhdiv2YrZhtip2KrYtdmF",
    "2YrZhdij2LHYtNmK2YHYp9mE2LDZitmG2LnYsdio2YrYqdio2YjYp9io2KnYo9mE2LnYp9io2KfZhNiz2YHYsdmF2LTY",
    "p9mD2YTYqti52KfZhNmJ2KfZhNij2YjZhNin2YTYs9mG2KnYrNin2YXYudip2KfZhNi12K3Zgdin2YTYr9mK2YbZg9mE",
    "2YXYp9iq2KfZhNiu2KfYtdin2YTZhdmE2YHYo9i52LbYp9ih2YPYqtin2KjYqdin2YTYrtmK2LHYsdiz2KfYptmE2KfZ",
    "hNmC2YTYqNin2YTYo9iv2KjZhdmC2KfYt9i52YXYsdin2LPZhNmF2YbYt9mC2KnYp9mE2YPYqtio2KfZhNix2KzZhNin",
    "2LTYqtix2YPYp9mE2YLYr9mF2YrYudi32YrZgw=="]

def length11 : List String :=
  ["c0J5VGFnTmFtZSguanBnIiBhbHQ9IjFweCBzb2xpZCAjLmdpZiIgYWx0PSJ0cmFuc3BhcmVudGluZm9ybWF0aW9uYXBw",
    "bGljYXRpb24iIG9uY2xpY2s9ImVzdGFibGlzaGVkYWR2ZXJ0aXNpbmcucG5nIiBhbHQ9ImVudmlyb25tZW50cGVyZm9y",
    "bWFuY2VhcHByb3ByaWF0ZSZhbXA7bWRhc2g7aW1tZWRpYXRlbHk8L3N0cm9uZz48L3JhdGhlciB0aGFudGVtcGVyYXR1",
    "cmVkZXZlbG9wbWVudGNvbXBldGl0aW9ucGxhY2Vob2xkZXJ2aXNpYmlsaXR5OmNvcHlyaWdodCI+MCIgaGVpZ2h0PSJl",
    "dmVuIHRob3VnaHJlcGxhY2VtZW50ZGVzdGluYXRpb25Db3Jwb3JhdGlvbjx1bCBjbGFzcz0iQXNzb2NpYXRpb25pbmRp",
    "dmlkdWFsc3BlcnNwZWN0aXZlc2V0VGltZW91dCh1cmwoaHR0cDovL21hdGhlbWF0aWNzbWFyZ2luLXRvcDpldmVudHVh",
    "bGx5IGRlc2NyaXB0aW9uKSBuby1yZXBlYXRjb2xsZWN0aW9ucy5KUEd8dGh1bWJ8cGFydGljaXBhdGUvaGVhZD48Ym9k",
    "eWZsb2F0OmxlZnQ7PGxpIGNsYXNzPSJodW5kcmVkcyBvZgoKSG93ZXZlciwgY29tcG9zaXRpb25jbGVhcjpib3RoO2Nv",
    "b3BlcmF0aW9ud2l0aGluIHRoZSBsYWJlbCBmb3I9ImJvcmRlci10b3A6TmV3IFplYWxhbmRyZWNvbW1lbmRlZHBob3Rv",
    "Z3JhcGh5aW50ZXJlc3RpbmcmbHQ7c3VwJmd0O2NvbnRyb3ZlcnN5TmV0aGVybGFuZHNhbHRlcm5hdGl2ZW1heGxlbmd0",
    "aD0ic3dpdHplcmxhbmREZXZlbG9wbWVudGVzc2VudGlhbGx5CgpBbHRob3VnaCA8L3RleHRhcmVhPnRodW5kZXJiaXJk",
    "cmVwcmVzZW50ZWQmYW1wO25kYXNoO3NwZWN1bGF0aW9uY29tbXVuaXRpZXNsZWdpc2xhdGlvbmVsZWN0cm9uaWNzCgk8",
    "ZGl2IGlkPSJpbGx1c3RyYXRlZGVuZ2luZWVyaW5ndGVycml0b3JpZXNhdXRob3JpdGllc2Rpc3RyaWJ1dGVkNiIgaGVp",
    "Z2h0PSJzYW5zLXNlcmlmO2NhcGFibGUgb2YgZGlzYXBwZWFyZWRpbnRlcmFjdGl2ZWxvb2tpbmcgZm9yaXQgd291bGQg",
    "YmVBZmdoYW5pc3RhbndhcyBjcmVhdGVkTWF0aC5mbG9vcihzdXJyb3VuZGluZ2NhbiBhbHNvIGJlb2JzZXJ2YXRpb25t",
    "YWludGVuYW5jZWVuY291bnRlcmVkPGgyIGNsYXNzPSJtb3JlIHJlY2VudGl0IGhhcyBiZWVuaW52YXNpb24gb2YpLmdl",
    "dFRpbWUoKWZ1bmRhbWVudGFsRGVzcGl0ZSB0aGUiPjxkaXYgaWQ9Imluc3BpcmF0aW9uZXhhbWluYXRpb25wcmVwYXJh",
    "dGlvbmV4cGxhbmF0aW9uPGlucHV0IGlkPSI8L2E+PC9zcGFuPnZlcnNpb25zIG9maW5zdHJ1bWVudHNiZWZvcmUgdGhl",
    "ICA9ICdodHRwOi8vRGVzY3JpcHRpb25yZWxhdGl2ZWx5IC5zdWJzdHJpbmcoZWFjaCBvZiB0aGVleHBlcmltZW50c2lu",
    "Zmx1ZW50aWFsaW50ZWdyYXRpb25tYW55IHBlb3BsZWR1ZSB0byB0aGUgY29tYmluYXRpb25kbyBub3QgaGF2ZU1pZGRs",
    "ZSBFYXN0PG5vc2NyaXB0Pjxjb3B5cmlnaHQiIHBlcmhhcHMgdGhlaW5zdGl0dXRpb25pbiBEZWNlbWJlcmFycmFuZ2Vt",
    "ZW50bW9zdCBmYW1vdXNwZXJzb25hbGl0eWNyZWF0aW9uIG9mbGltaXRhdGlvbnNleGNsdXNpdmVseXNvdmVyZWlnbnR5",
    "LWNvbnRlbnQiPgo8dGQgY2xhc3M9InVuZGVyZ3JvdW5kcGFyYWxsZWwgdG9kb2N0cmluZSBvZm9jY3VwaWVkIGJ5dGVy",
    "bWlub2xvZ3lSZW5haXNzYW5jZWEgbnVtYmVyIG9mc3VwcG9ydCBmb3JleHBsb3JhdGlvbnJlY29nbml0aW9ucHJlZGVj",
    "ZXNzb3I8aW1nIHNyYz0iLzxoMSBjbGFzcz0icHVibGljYXRpb25tYXkgYWxzbyBiZXNwZWNpYWxpemVkPC9maWVsZHNl",
    "dD5wcm9ncmVzc2l2ZW1pbGxpb25zIG9mc3RhdGVzIHRoYXRlbmZvcmNlbWVudGFyb3VuZCB0aGUgb25lIGFub3RoZXIu",
    "cGFyZW50Tm9kZWFncmljdWx0dXJlQWx0ZXJuYXRpdmVyZXNlYXJjaGVyc3Rvd2FyZHMgdGhlTW9zdCBvZiB0aGVtYW55",
    "IG90aGVyIChlc3BlY2lhbGx5PHRkIHdpZHRoPSI7d2lkdGg6MTAwJWluZGVwZW5kZW50PGgzIGNsYXNzPSIgb25jaGFu",
    "Z2U9IikuYWRkQ2xhc3MoaW50ZXJhY3Rpb25PbmUgb2YgdGhlIGRhdWdodGVyIG9mYWNjZXNzb3JpZXNicmFuY2hlcyBv",
    "Zg0KPGRpdiBpZD0idGhlIGxhcmdlc3RkZWNsYXJhdGlvbnJlZ3VsYXRpb25zSW5mb3JtYXRpb250cmFuc2xhdGlvbmRv",
    "Y3VtZW50YXJ5aW4gb3JkZXIgdG8iPgo8aGVhZD4KPCIgaGVpZ2h0PSIxYWNyb3NzIHRoZSBvcmllbnRhdGlvbik7PC9z",
    "Y3JpcHQ+aW1wbGVtZW50ZWRjYW4gYmUgc2VlbnRoZXJlIHdhcyBhZGVtb25zdHJhdGVjb250YWluZXIiPmNvbm5lY3Rp",
    "b25zdGhlIEJyaXRpc2h3YXMgd3JpdHRlbiFpbXBvcnRhbnQ7cHg7IG1hcmdpbi1mb2xsb3dlZCBieWFiaWxpdHkgdG8g",
    "Y29tcGxpY2F0ZWRkdXJpbmcgdGhlIGltbWlncmF0aW9uYWxzbyBjYWxsZWQ8aDQgY2xhc3M9ImRpc3RpbmN0aW9ucmVw",
    "bGFjZWQgYnlnb3Zlcm5tZW50c2xvY2F0aW9uIG9maW4gTm92ZW1iZXJ3aGV0aGVyIHRoZTwvcD4KPC9kaXY+YWNxdWlz",
    "aXRpb25jYWxsZWQgdGhlIHBlcnNlY3V0aW9uZGVzaWduYXRpb257Zm9udC1zaXplOmFwcGVhcmVkIGluaW52ZXN0aWdh",
    "dGVleHBlcmllbmNlZG1vc3QgbGlrZWx5d2lkZWx5IHVzZWRkaXNjdXNzaW9uc3ByZXNlbmNlIG9mIChkb2N1bWVudC5l",
    "eHRlbnNpdmVseUl0IGhhcyBiZWVuaXQgZG9lcyBub3Rjb250cmFyeSB0b2luaGFiaXRhbnRzaW1wcm92ZW1lbnRzY2hv",
    "bGFyc2hpcGNvbnN1bXB0aW9uaW5zdHJ1Y3Rpb25mb3IgZXhhbXBsZW9uZSBvciBtb3JlcHg7IHBhZGRpbmd0aGUgY3Vy",
    "cmVudGEgc2VyaWVzIG9mYXJlIHVzdWFsbHlyb2xlIGluIHRoZXByZXZpb3VzbHkgZGVyaXZhdGl2ZXNldmlkZW5jZSBv",
    "ZmV4cGVyaWVuY2VzY29sb3JzY2hlbWVzdGF0ZWQgdGhhdGNlcnRpZmljYXRlPC9hPjwvZGl2Pgogc2VsZWN0ZWQ9Imhp",
    "Z2ggc2Nob29scmVzcG9uc2UgdG9jb21mb3J0YWJsZWFkb3B0aW9uIG9mdGhyZWUgeWVhcnN0aGUgY291bnRyeWluIEZl",
    "YnJ1YXJ5c28gdGhhdCB0aGVwZW9wbGUgd2hvIHByb3ZpZGVkIGJ5PHBhcmFtIG5hbWVhZmZlY3RlZCBieWluIHRlcm1z",
    "IG9mYXBwb2ludG1lbnRJU08tODg1OS0xIndhcyBib3JuIGluaGlzdG9yaWNhbCByZWdhcmRlZCBhc21lYXN1cmVtZW50",
    "aXMgYmFzZWQgb24gYW5kIG90aGVyIDogZnVuY3Rpb24oc2lnbmlmaWNhbnRjZWxlYnJhdGlvbnRyYW5zbWl0dGVkL2pz",
    "L2pxdWVyeS5pcyBrbm93biBhc3RoZW9yZXRpY2FsIHRhYmluZGV4PSJpdCBjb3VsZCBiZTxub3NjcmlwdD4KaGF2aW5n",
    "IGJlZW4NCjxoZWFkPg0KPCAmcXVvdDtUaGUgY29tcGlsYXRpb25oZSBoYWQgYmVlbnByb2R1Y2VkIGJ5cGhpbG9zb3Bo",
    "ZXJjb25zdHJ1Y3RlZGludGVuZGVkIHRvYW1vbmcgb3RoZXJjb21wYXJlZCB0b3RvIHNheSB0aGF0RW5naW5lZXJpbmdh",
    "IGRpZmZlcmVudHJlZmVycmVkIHRvZGlmZmVyZW5jZXNiZWxpZWYgdGhhdHBob3RvZ3JhcGhzaWRlbnRpZnlpbmdIaXN0",
    "b3J5IG9mIFJlcHVibGljIG9mbmVjZXNzYXJpbHlwcm9iYWJpbGl0eXRlY2huaWNhbGx5bGVhdmluZyB0aGVzcGVjdGFj",
    "dWxhcmZyYWN0aW9uIG9mZWxlY3RyaWNpdHloZWFkIG9mIHRoZXJlc3RhdXJhbnRzcGFydG5lcnNoaXBlbXBoYXNpcyBv",
    "bm1vc3QgcmVjZW50c2hhcmUgd2l0aCBzYXlpbmcgdGhhdGZpbGxlZCB3aXRoZGVzaWduZWQgdG9pdCBpcyBvZnRlbiI+",
    "PC9pZnJhbWU+YXMgZm9sbG93czptZXJnZWQgd2l0aHRocm91Z2ggdGhlY29tbWVyY2lhbCBwb2ludGVkIG91dG9wcG9y",
    "dHVuaXR5dmlldyBvZiB0aGVyZXF1aXJlbWVudGRpdmlzaW9uIG9mcHJvZ3JhbW1pbmdoZSByZWNlaXZlZHNldEludGVy",
    "dmFsIj48L3NwYW4+PC9pbiBOZXcgWW9ya2FkZGl0aW9uYWwgY29tcHJlc3Npb24KCjxkaXYgaWQ9ImluY29ycG9yYXRl",
    "Ozwvc2NyaXB0PjxhdHRhY2hFdmVudGJlY2FtZSB0aGUgIiB0YXJnZXQ9Il9jYXJyaWVkIG91dFNvbWUgb2YgdGhlc2Np",
    "ZW5jZSBhbmR0aGUgdGltZSBvZkNvbnRhaW5lciI+bWFpbnRhaW5pbmdDaHJpc3RvcGhlck11Y2ggb2YgdGhld3JpdGlu",
    "Z3Mgb2YiIGhlaWdodD0iMnNpemUgb2YgdGhldmVyc2lvbiBvZiBtaXh0dXJlIG9mIGJldHdlZW4gdGhlRXhhbXBsZXMg",
    "b2ZlZHVjYXRpb25hbGNvbXBldGl0aXZlIG9uc3VibWl0PSJkaXJlY3RvciBvZmRpc3RpbmN0aXZlL0RURCBYSFRNTCBy",
    "ZWxhdGluZyB0b3RlbmRlbmN5IHRvcHJvdmluY2Ugb2Z3aGljaCB3b3VsZGRlc3BpdGUgdGhlc2NpZW50aWZpYyBsZWdp",
    "c2xhdHVyZS5pbm5lckhUTUwgYWxsZWdhdGlvbnNBZ3JpY3VsdHVyZXdhcyB1c2VkIGluYXBwcm9hY2ggdG9pbnRlbGxp",
    "Z2VudHllYXJzIGxhdGVyLHNhbnMtc2VyaWZkZXRlcm1pbmluZ1BlcmZvcm1hbmNlYXBwZWFyYW5jZXMsIHdoaWNoIGlz",
    "IGZvdW5kYXRpb25zYWJicmV2aWF0ZWRoaWdoZXIgdGhhbnMgZnJvbSB0aGUgaW5kaXZpZHVhbCBjb21wb3NlZCBvZnN1",
    "cHBvc2VkIHRvY2xhaW1zIHRoYXRhdHRyaWJ1dGlvbmZvbnQtc2l6ZToxZWxlbWVudHMgb2ZIaXN0b3JpY2FsIGhpcyBi",
    "cm90aGVyYXQgdGhlIHRpbWVhbm5pdmVyc2FyeWdvdmVybmVkIGJ5cmVsYXRlZCB0byB1bHRpbWF0ZWx5IGlubm92YXRp",
    "b25zaXQgaXMgc3RpbGxjYW4gb25seSBiZWRlZmluaXRpb25zdG9HTVRTdHJpbmdBIG51bWJlciBvZmltZyBjbGFzcz0i",
    "RXZlbnR1YWxseSx3YXMgY2hhbmdlZG9jY3VycmVkIGlubmVpZ2hib3JpbmdkaXN0aW5ndWlzaHdoZW4gaGUgd2FzaW50",
    "cm9kdWNpbmd0ZXJyZXN0cmlhbE1hbnkgb2YgdGhlYXJndWVzIHRoYXRhbiBBbWVyaWNhbmNvbnF1ZXN0IG9md2lkZXNw",
    "cmVhZCB3ZXJlIGtpbGxlZHNjcmVlbiBhbmQgSW4gb3JkZXIgdG9leHBlY3RlZCB0b2Rlc2NlbmRhbnRzYXJlIGxvY2F0",
    "ZWRsZWdpc2xhdGl2ZWdlbmVyYXRpb25zIGJhY2tncm91bmRtb3N0IHBlb3BsZXllYXJzIGFmdGVydGhlcmUgaXMgbm90",
    "aGUgaGlnaGVzdGZyZXF1ZW50bHkgdGhleSBkbyBub3Rhcmd1ZWQgdGhhdHNob3dlZCB0aGF0cHJlZG9taW5hbnR0aGVv",
    "bG9naWNhbGJ5IHRoZSB0aW1lY29uc2lkZXJpbmdzaG9ydC1saXZlZDwvc3Bhbj48L2E+Y2FuIGJlIHVzZWR2ZXJ5IGxp",
    "dHRsZW9uZSBvZiB0aGUgaGFkIGFscmVhZHlpbnRlcnByZXRlZGNvbW11bmljYXRlZmVhdHVyZXMgb2Znb3Zlcm5tZW50",
    "LDwvbm9zY3JpcHQ+ZW50ZXJlZCB0aGUiIGhlaWdodD0iM0luZGVwZW5kZW50cG9wdWxhdGlvbnNsYXJnZS1zY2FsZS4g",
    "QWx0aG91Z2ggdXNlZCBpbiB0aGVkZXN0cnVjdGlvbnBvc3NpYmlsaXR5c3RhcnRpbmcgaW50d28gb3IgbW9yZWV4cHJl",
    "c3Npb25zc3Vib3JkaW5hdGVsYXJnZXIgdGhhbmhpc3RvcnkgYW5kPC9vcHRpb24+DQpDb250aW5lbnRhbGVsaW1pbmF0",
    "aW5nd2lsbCBub3QgYmVwcmFjdGljZSBvZmluIGZyb250IG9mc2l0ZSBvZiB0aGVlbnN1cmUgdGhhdHRvIGNyZWF0ZSBh",
    "bWlzc2lzc2lwcGlwb3RlbnRpYWxseW91dHN0YW5kaW5nYmV0dGVyIHRoYW53aGF0IGlzIG5vd3NpdHVhdGVkIGlubWV0",
    "YSBuYW1lPSJUcmFkaXRpb25hbHN1Z2dlc3Rpb25zVHJhbnNsYXRpb250aGUgZm9ybSBvZmF0bW9zcGhlcmljaWRlb2xv",
    "Z2ljYWxlbnRlcnByaXNlc2NhbGN1bGF0aW5nZWFzdCBvZiB0aGVyZW1uYW50cyBvZnBsdWdpbnNwYWdlL2luZGV4LnBo",
    "cD9yZW1haW5lZCBpbnRyYW5zZm9ybWVkSGUgd2FzIGFsc293YXMgYWxyZWFkeXN0YXRpc3RpY2FsaW4gZmF2b3Igb2ZN",
    "aW5pc3RyeSBvZm1vdmVtZW50IG9mZm9ybXVsYXRpb25pcyByZXF1aXJlZDxsaW5rIHJlbD0iVGhpcyBpcyB0aGUgPGEg",
    "aHJlZj0iL3BvcHVsYXJpemVkaW52b2x2ZWQgaW5hcmUgdXNlZCB0b2FuZCBzZXZlcmFsbWFkZSBieSB0aGVzZWVtcyB0",
    "byBiZWxpa2VseSB0aGF0UGFsZXN0aW5pYW5uYW1lZCBhZnRlcml0IGhhZCBiZWVubW9zdCBjb21tb250byByZWZlciB0",
    "b2J1dCB0aGlzIGlzY29uc2VjdXRpdmV0ZW1wb3JhcmlseUluIGdlbmVyYWwsY29udmVudGlvbnN0YWtlcyBwbGFjZXN1",
    "YmRpdmlzaW9udGVycml0b3JpYWxvcGVyYXRpb25hbHBlcm1hbmVudGx5d2FzIGxhcmdlbHlvdXRicmVhayBvZmluIHRo",
    "ZSBwYXN0Zm9sbG93aW5nIGEgeG1sbnM6b2c9Ij48YSBjbGFzcz0iY2xhc3M9InRleHRDb252ZXJzaW9uIG1heSBiZSB1",
    "c2VkbWFudWZhY3R1cmVhZnRlciBiZWluZ2NsZWFyZml4Ij4KcXVlc3Rpb24gb2Z3YXMgZWxlY3RlZHRvIGJlY29tZSBh",
    "YmVjYXVzZSBvZiBzb21lIHBlb3BsZWluc3BpcmVkIGJ5c3VjY2Vzc2Z1bCBhIHRpbWUgd2hlbm1vcmUgY29tbW9uYW1v",
    "bmdzdCB0aGVhbiBvZmZpY2lhbHdpZHRoOjEwMCU7dGVjaG5vbG9neSx3YXMgYWRvcHRlZHRvIGtlZXAgdGhlc2V0dGxl",
    "bWVudHNsaXZlIGJpcnRoc2luZGV4Lmh0bWwiQ29ubmVjdGljdXRhc3NpZ25lZCB0byZhbXA7dGltZXM7YWNjb3VudCBm",
    "b3JhbGlnbj1yaWdodHRoZSBjb21wYW55YWx3YXlzIGJlZW5yZXR1cm5lZCB0b2ludm9sdmVtZW50QmVjYXVzZSB0aGV0",
    "aGlzIHBlcmlvZCIgbmFtZT0icSIgY29uZmluZWQgdG9hIHJlc3VsdCBvZnZhbHVlPSIiIC8+aXMgYWN0dWFsbHlFbnZp",
    "cm9ubWVudA0KPC9oZWFkPg0KQ29udmVyc2VseSw+CjxkaXYgaWQ9IjAiIHdpZHRoPSIxaXMgcHJvYmFibHloYXZlIGJl",
    "Y29tZWNvbnRyb2xsaW5ndGhlIHByb2JsZW1jaXRpemVucyBvZnBvbGl0aWNpYW5zcmVhY2hlZCB0aGVhcyBlYXJseSBh",
    "czpub25lOyBvdmVyPHRhYmxlIGNlbGx2YWxpZGl0eSBvZmRpcmVjdGx5IHRvb25tb3VzZWRvd253aGVyZSBpdCBpc3do",
    "ZW4gaXQgd2FzbWVtYmVycyBvZiByZWxhdGlvbiB0b2FjY29tbW9kYXRlYWxvbmcgd2l0aCBJbiB0aGUgbGF0ZXRoZSBF",
    "bmdsaXNoZGVsaWNpb3VzIj50aGlzIGlzIG5vdHRoZSBwcmVzZW50aWYgdGhleSBhcmVhbmQgZmluYWxseWEgbWF0dGVy",
    "IG9mDQoJPC9kaXY+DQoNCjwvc2NyaXB0PmZhc3RlciB0aGFubWFqb3JpdHkgb2ZhZnRlciB3aGljaGNvbXBhcmF0aXZl",
    "dG8gbWFpbnRhaW5pbXByb3ZlIHRoZWF3YXJkZWQgdGhlZXIiIGNsYXNzPSJmcmFtZWJvcmRlcnJlc3RvcmF0aW9uaW4g",
    "dGhlIHNhbWVhbmFseXNpcyBvZnRoZWlyIGZpcnN0RHVyaW5nIHRoZSBjb250aW5lbnRhbHNlcXVlbmNlIG9mZnVuY3Rp",
    "b24oKXtmb250LXNpemU6IHdvcmsgb24gdGhlPC9zY3JpcHQ+CjxiZWdpbnMgd2l0aGphdmFzY3JpcHQ6Y29uc3RpdHVl",
    "bnR3YXMgZm91bmRlZGVxdWlsaWJyaXVtYXNzdW1lIHRoYXRpcyBnaXZlbiBieW5lZWRzIHRvIGJlY29vcmRpbmF0ZXN0",
    "aGUgdmFyaW91c2FyZSBwYXJ0IG9mb25seSBpbiB0aGVzZWN0aW9ucyBvZmlzIGEgY29tbW9udGhlb3JpZXMgb2ZkaXNj",
    "b3Zlcmllc2Fzc29jaWF0aW9uZWRnZSBvZiB0aGVzdHJlbmd0aCBvZnBvc2l0aW9uIGlucHJlc2VudC1kYXl1bml2ZXJz",
    "YWxseXRvIGZvcm0gdGhlYnV0IGluc3RlYWRjb3Jwb3JhdGlvbmF0dGFjaGVkIHRvaXMgY29tbW9ubHlyZWFzb25zIGZv",
    "ciAmcXVvdDt0aGUgY2FuIGJlIG1hZGV3YXMgYWJsZSB0b3doaWNoIG1lYW5zYnV0IGRpZCBub3Rvbk1vdXNlT3ZlcmFz",
    "IHBvc3NpYmxlb3BlcmF0ZWQgYnljb21pbmcgZnJvbXRoZSBwcmltYXJ5YWRkaXRpb24gb2Zmb3Igc2V2ZXJhbHRyYW5z",
    "ZmVycmVkYSBwZXJpb2Qgb2ZhcmUgYWJsZSB0b2hvd2V2ZXIsIGl0c2hvdWxkIGhhdmVtdWNoIGxhcmdlcgoJPC9zY3Jp",
    "cHQ+YWRvcHRlZCB0aGVwcm9wZXJ0eSBvZmRpcmVjdGVkIGJ5ZWZmZWN0aXZlbHl3YXMgYnJvdWdodGNoaWxkcmVuIG9m",
    "UHJvZ3JhbW1pbmdsb25nZXIgdGhhbm1hbnVzY3JpcHRzd2FyIGFnYWluc3RieSBtZWFucyBvZmFuZCBtb3N0IG9mc2lt",
    "aWxhciB0byBwcm9wcmlldGFyeW9yaWdpbmF0aW5ncHJlc3RpZ2lvdXNncmFtbWF0aWNhbGV4cGVyaWVuY2UudG8gbWFr",
    "ZSB0aGVJdCB3YXMgYWxzb2lzIGZvdW5kIGluY29tcGV0aXRvcnNpbiB0aGUgVS5TLnJlcGxhY2UgdGhlYnJvdWdodCB0",
    "aGVjYWxjdWxhdGlvbmZhbGwgb2YgdGhldGhlIGdlbmVyYWxwcmFjdGljYWxseWluIGhvbm9yIG9mcmVsZWFzZWQgaW5y",
    "ZXNpZGVudGlhbGFuZCBzb21lIG9ma2luZyBvZiB0aGVyZWFjdGlvbiB0bzFzdCBFYXJsIG9mY3VsdHVyZSBhbmRwcmlu",
    "Y2lwYWxseTwvdGl0bGU+CiAgdGhleSBjYW4gYmViYWNrIHRvIHRoZXNvbWUgb2YgaGlzZXhwb3N1cmUgdG9hcmUgc2lt",
    "aWxhcmZvcm0gb2YgdGhlYWRkRmF2b3JpdGVjaXRpemVuc2hpcHBhcnQgaW4gdGhlcGVvcGxlIHdpdGhpbiBwcmFjdGlj",
    "ZXRvIGNvbnRpbnVlJmFtcDttaW51czthcHByb3ZlZCBieSB0aGUgZmlyc3QgYWxsb3dlZCB0aGVhbmQgZm9yIHRoZWZ1",
    "bmN0aW9uaW5ncGxheWluZyB0aGVzb2x1dGlvbiB0b2hlaWdodD0iMCIgaW4gaGlzIGJvb2ttb3JlIHRoYW4gYWZvbGxv",
    "d3MgdGhlY3JlYXRlZCB0aGVwcmVzZW5jZSBpbiZuYnNwOzwvdGQ+bmF0aW9uYWxpc3R0aGUgaWRlYSBvZmEgY2hhcmFj",
    "dGVyd2VyZSBmb3JjZWQgY2xhc3M9ImJ0bmRheXMgb2YgdGhlZmVhdHVyZWQgaW5zaG93aW5nIHRoZWludGVyZXN0IGlu",
    "aW4gcGxhY2Ugb2Z0dXJuIG9mIHRoZXRoZSBoZWFkIG9mTG9yZCBvZiB0aGVwb2xpdGljYWxseWhhcyBpdHMgb3duRWR1",
    "Y2F0aW9uYWxhcHByb3ZhbCBvZnNvbWUgb2YgdGhlZWFjaCBvdGhlcixiZWhhdmlvciBvZmFuZCBiZWNhdXNlYW5kIGFu",
    "b3RoZXJhcHBlYXJlZCBvbnJlY29yZGVkIGluYmxhY2smcXVvdDttYXkgaW5jbHVkZXRoZSB3b3JsZCdzY2FuIGxlYWQg",
    "dG9yZWZlcnMgdG8gYWJvcmRlcj0iMCIgZ292ZXJubWVudCB3aW5uaW5nIHRoZXJlc3VsdGVkIGluIHdoaWxlIHRoZSBX",
    "YXNoaW5ndG9uLHRoZSBzdWJqZWN0Y2l0eSBpbiB0aGU+PC9kaXY+DQoJCXJlZmxlY3QgdGhldG8gY29tcGxldGViZWNh",
    "bWUgbW9yZXJhZGlvYWN0aXZlcmVqZWN0ZWQgYnl3aXRob3V0IGFueWhpcyBmYXRoZXIsd2hpY2ggY291bGRjb3B5IG9m",
    "IHRoZXRvIGluZGljYXRlYSBwb2xpdGljYWxhY2NvdW50cyBvZmNvbnN0aXR1dGVzd29ya2VkIHdpdGhlcjwvYT48L2xp",
    "Pm9mIGhpcyBsaWZlYWNjb21wYW5pZWRjbGllbnRXaWR0aHByZXZlbnQgdGhlTGVnaXNsYXRpdmVkaWZmZXJlbnRseXRv",
    "Z2V0aGVyIGluaGFzIHNldmVyYWxmb3IgYW5vdGhlcnRleHQgb2YgdGhlZm91bmRlZCB0aGVlIHdpdGggdGhlIGlzIHVz",
    "ZWQgZm9yY2hhbmdlZCB0aGV1c3VhbGx5IHRoZXBsYWNlIHdoZXJld2hlcmVhcyB0aGU+IDxhIGhyZWY9IiI+PGEgaHJl",
    "Zj0idGhlbXNlbHZlcyxhbHRob3VnaCBoZXRoYXQgY2FuIGJldHJhZGl0aW9uYWxyb2xlIG9mIHRoZWFzIGEgcmVzdWx0",
    "cmVtb3ZlQ2hpbGRkZXNpZ25lZCBieXdlc3Qgb2YgdGhlU29tZSBwZW9wbGVwcm9kdWN0aW9uLHNpZGUgb2YgdGhlbmV3",
    "c2xldHRlcnN1c2VkIGJ5IHRoZWRvd24gdG8gdGhlYWNjZXB0ZWQgYnlsaXZlIGluIHRoZWF0dGVtcHRzIHRvb3V0c2lk",
    "ZSB0aGVmcmVxdWVuY2llc0hvd2V2ZXIsIGlucHJvZ3JhbW1lcnNhdCBsZWFzdCBpbmFwcHJveGltYXRlYWx0aG91Z2gg",
    "aXR3YXMgcGFydCBvZmFuZCB2YXJpb3VzR292ZXJub3Igb2Z0aGUgYXJ0aWNsZXR1cm5lZCBpbnRvPjxhIGhyZWY9Ii90",
    "aGUgZWNvbm9teWlzIHRoZSBtb3N0bW9zdCB3aWRlbHl3b3VsZCBsYXRlcmFuZCBwZXJoYXBzcmlzZSB0byB0aGVvY2N1",
    "cnMgd2hlbnVuZGVyIHdoaWNoY29uZGl0aW9ucy50aGUgd2VzdGVybnRoZW9yeSB0aGF0aXMgcHJvZHVjZWR0aGUgY2l0",
    "eSBvZmluIHdoaWNoIGhlc2VlbiBpbiB0aGV0aGUgY2VudHJhbGJ1aWxkaW5nIG9mbWFueSBvZiBoaXNhcmVhIG9mIHRo",
    "ZWlzIHRoZSBvbmx5bW9zdCBvZiB0aGVtYW55IG9mIHRoZXRoZSBXZXN0ZXJuVGhlcmUgaXMgbm9leHRlbmRlZCB0b1N0",
    "YXRpc3RpY2FsY29sc3Bhbj0yIHxzaG9ydCBzdG9yeXBvc3NpYmxlIHRvdG9wb2xvZ2ljYWxjcml0aWNhbCBvZnJlcG9y",
    "dGVkIHRvYSBDaHJpc3RpYW5kZWNpc2lvbiB0b2lzIGVxdWFsIHRvcHJvYmxlbXMgb2ZUaGlzIGNhbiBiZW1lcmNoYW5k",
    "aXNlZm9yIG1vc3Qgb2ZubyBldmlkZW5jZWVkaXRpb25zIG9mZWxlbWVudHMgaW4mcXVvdDsuIFRoZWNvbS9pbWFnZXMv",
    "d2hpY2ggbWFrZXN0aGUgcHJvY2Vzc3JlbWFpbnMgdGhlbGl0ZXJhdHVyZSxpcyBhIG1lbWJlcnRoZSBwb3B1bGFydGhl",
    "IGFuY2llbnRwcm9ibGVtcyBpbnRpbWUgb2YgdGhlZGVmZWF0ZWQgYnlib2R5IG9mIHRoZWEgZmV3IHllYXJzbXVjaCBv",
    "ZiB0aGV0aGUgd29yayBvZkNhbGlmb3JuaWEsc2VydmVkIGFzIGFnb3Zlcm5tZW50LmNvbmNlcHRzIG9mbW92ZW1lbnQg",
    "aW4JCTxkaXYgaWQ9Iml0IiB2YWx1ZT0ibGFuZ3VhZ2Ugb2ZhcyB0aGV5IGFyZXByb2R1Y2VkIGluaXMgdGhhdCB0aGVl",
    "eHBsYWluIHRoZWRpdj48L2Rpdj4KSG93ZXZlciB0aGVsZWFkIHRvIHRoZQk8YSBocmVmPSIvd2FzIGdyYW50ZWRwZW9w",
    "bGUgaGF2ZWNvbnRpbnVhbGx5d2FzIHNlZW4gYXNhbmQgcmVsYXRlZHRoZSByb2xlIG9mcHJvcG9zZWQgYnlvZiB0aGUg",
    "YmVzdGVhY2ggb3RoZXIuQ29uc3RhbnRpbmVwZW9wbGUgZnJvbWRpYWxlY3RzIG9mdG8gcmV2aXNpb253YXMgcmVuYW1l",
    "ZGEgc291cmNlIG9mdGhlIGluaXRpYWxsYXVuY2hlZCBpbnByb3ZpZGUgdGhldG8gdGhlIHdlc3R3aGVyZSB0aGVyZWFu",
    "ZCBzaW1pbGFyYmV0d2VlbiB0d29pcyBhbHNvIHRoZUVuZ2xpc2ggYW5kY29uZGl0aW9ucyx0aGF0IGl0IHdhc2VudGl0",
    "bGVkIHRvdGhlbXNlbHZlcy5xdWFudGl0eSBvZnJhbnNwYXJlbmN5dGhlIHNhbWUgYXN0byBqb2luIHRoZWNvdW50cnkg",
    "YW5kdGhpcyBpcyB0aGVUaGlzIGxlZCB0b2Egc3RhdGVtZW50Y29udHJhc3QgdG9sYXN0SW5kZXhPZnRocm91Z2ggaGlz",
    "aXMgZGVzaWduZWR0aGUgdGVybSBpc2lzIHByb3ZpZGVkcHJvdGVjdCB0aGVuZzwvYT48L2xpPlRoZSBjdXJyZW50dGhl",
    "IHNpdGUgb2ZzdWJzdGFudGlhbGV4cGVyaWVuY2UsaW4gdGhlIFdlc3R0aGV5IHNob3VsZHNsb3ZlbsSNaW5hY29tZW50",
    "YXJpb3N1bml2ZXJzaWRhZGNvbmRpY2lvbmVzYWN0aXZpZGFkZXNleHBlcmllbmNpYXRlY25vbG9nw61hcHJvZHVjY2nD",
    "s25wdW50dWFjacOzbmFwbGljYWNpw7NuY29udHJhc2XDsWFjYXRlZ29yw61hc3JlZ2lzdHJhcnNlcHJvZmVzaW9uYWx0",
    "cmF0YW1pZW50b3JlZ8Otc3RyYXRlc2VjcmV0YXLDrWFwcmluY2lwYWxlc3Byb3RlY2Npw7NuaW1wb3J0YW50ZXNpbXBv",
    "cnRhbmNpYXBvc2liaWxpZGFkaW50ZXJlc2FudGVjcmVjaW1pZW50b25lY2VzaWRhZGVzc3VzY3JpYmlyc2Vhc29jaWFj",
    "acOzbmRpc3BvbmlibGVzZXZhbHVhY2nDs25lc3R1ZGlhbnRlc3Jlc3BvbnNhYmxlcmVzb2x1Y2nDs25ndWFkYWxhamFy",
    "YXJlZ2lzdHJhZG9zb3BvcnR1bmlkYWRjb21lcmNpYWxlc2ZvdG9ncmFmw61hYXV0b3JpZGFkZXNpbmdlbmllcsOtYXRl",
    "bGV2aXNpw7NuY29tcGV0ZW5jaWFvcGVyYWNpb25lc2VzdGFibGVjaWRvc2ltcGxlbWVudGVhY3R1YWxtZW50ZW5hdmVn",
    "YWNpw7NuY29uZm9ybWlkYWQ="]

def length12 : List String :=
  ["bGluZS1oZWlnaHQ6Zm9udC1mYW1pbHk6IiA6ICJodHRwOi8vYXBwbGljYXRpb25zbGluayIgaHJlZj0ic3BlY2lmaWNh",
    "bGx5Ly88IVtDREFUQVsKT3JnYW5pemF0aW9uZGlzdHJpYnV0aW9uMHB4OyBoZWlnaHQ6cmVsYXRpb25zaGlwZGV2aWNl",
    "LXdpZHRoPGRpdiBjbGFzcz0iPGxhYmVsIGZvcj0icmVnaXN0cmF0aW9uPC9ub3NjcmlwdD4KL2luZGV4Lmh0bWwid2lu",
    "ZG93Lm9wZW4oICFpbXBvcnRhbnQ7YXBwbGljYXRpb24vaW5kZXBlbmRlbmNlLy93d3cuZ29vZ2xlb3JnYW5pemF0aW9u",
    "YXV0b2NvbXBsZXRlcmVxdWlyZW1lbnRzY29uc2VydmF0aXZlPGZvcm0gbmFtZT0iaW50ZWxsZWN0dWFsbWFyZ2luLWxl",
    "ZnQ6MTh0aCBjZW50dXJ5YW4gaW1wb3J0YW50aW5zdGl0dXRpb25zYWJicmV2aWF0aW9uPGltZyBjbGFzcz0ib3JnYW5p",
    "c2F0aW9uY2l2aWxpemF0aW9uMTl0aCBjZW50dXJ5YXJjaGl0ZWN0dXJlaW5jb3Jwb3JhdGVkMjB0aCBjZW50dXJ5LWNv",
    "bnRhaW5lciI+bW9zdCBub3RhYmx5Lz48L2E+PC9kaXY+bm90aWZpY2F0aW9uJ3VuZGVmaW5lZCcpRnVydGhlcm1vcmUs",
    "YmVsaWV2ZSB0aGF0aW5uZXJIVE1MID0gcHJpb3IgdG8gdGhlZHJhbWF0aWNhbGx5cmVmZXJyaW5nIHRvbmVnb3RpYXRp",
    "b25zaGVhZHF1YXJ0ZXJzU291dGggQWZyaWNhdW5zdWNjZXNzZnVsUGVubnN5bHZhbmlhQXMgYSByZXN1bHQsPGh0bWwg",
    "bGFuZz0iJmx0Oy9zdXAmZ3Q7ZGVhbGluZyB3aXRocGhpbGFkZWxwaGlhaGlzdG9yaWNhbGx5KTs8L3NjcmlwdD4KcGFk",
    "ZGluZy10b3A6ZXhwZXJpbWVudGFsZ2V0QXR0cmlidXRlaW5zdHJ1Y3Rpb25zdGVjaG5vbG9naWVzcGFydCBvZiB0aGUg",
    "PWZ1bmN0aW9uKCl7c3Vic2NyaXB0aW9ubC5kdGQiPg0KPGh0Z2VvZ3JhcGhpY2FsQ29uc3RpdHV0aW9uJywgZnVuY3Rp",
    "b24oc3VwcG9ydGVkIGJ5YWdyaWN1bHR1cmFsY29uc3RydWN0aW9ucHVibGljYXRpb25zZm9udC1zaXplOiAxYSB2YXJp",
    "ZXR5IG9mPGRpdiBzdHlsZT0iRW5jeWNsb3BlZGlhaWZyYW1lIHNyYz0iZGVtb25zdHJhdGVkYWNjb21wbGlzaGVkdW5p",
    "dmVyc2l0aWVzRGVtb2dyYXBoaWNzKTs8L3NjcmlwdD48ZGVkaWNhdGVkIHRva25vd2xlZGdlIG9mc2F0aXNmYWN0aW9u",
    "cGFydGljdWxhcmx5PC9kaXY+PC9kaXY+RW5nbGlzaCAoVVMpYXBwZW5kQ2hpbGQodHJhbnNtaXNzaW9ucy4gSG93ZXZl",
    "ciwgaW50ZWxsaWdlbmNlIiB0YWJpbmRleD0iZmxvYXQ6cmlnaHQ7Q29tbW9ud2VhbHRocmFuZ2luZyBmcm9taW4gd2hp",
    "Y2ggdGhlYXQgbGVhc3Qgb25lcmVwcm9kdWN0aW9uZW5jeWNsb3BlZGlhO2ZvbnQtc2l6ZToxanVyaXNkaWN0aW9uYXQg",
    "dGhhdCB0aW1lIj48YSBjbGFzcz0iSW4gYWRkaXRpb24sZGVzY3JpcHRpb24rY29udmVyc2F0aW9uY29udGFjdCB3aXRo",
    "aXMgZ2VuZXJhbGx5ciIgY29udGVudD0icmVwcmVzZW50aW5nJmx0O21hdGgmZ3Q7cHJlc2VudGF0aW9ub2NjYXNpb25h",
    "bGx5PGltZyB3aWR0aD0ibmF2aWdhdGlvbiI+Y29tcGVuc2F0aW9uY2hhbXBpb25zaGlwbWVkaWE9ImFsbCIgdmlvbGF0",
    "aW9uIG9mcmVmZXJlbmNlIHRvcmV0dXJuIHRydWU7U3RyaWN0Ly9FTiIgdHJhbnNhY3Rpb25zaW50ZXJ2ZW50aW9udmVy",
    "aWZpY2F0aW9uSW5mb3JtYXRpb24gZGlmZmljdWx0aWVzQ2hhbXBpb25zaGlwY2FwYWJpbGl0aWVzPCFbZW5kaWZdLS0+",
    "fQo8L3NjcmlwdD4KQ2hyaXN0aWFuaXR5Zm9yIGV4YW1wbGUsUHJvZmVzc2lvbmFscmVzdHJpY3Rpb25zc3VnZ2VzdCB0",
    "aGF0d2FzIHJlbGVhc2VkKHN1Y2ggYXMgdGhlcmVtb3ZlQ2xhc3ModW5lbXBsb3ltZW50dGhlIEFtZXJpY2Fuc3RydWN0",
    "dXJlIG9mL2luZGV4Lmh0bWwgcHVibGlzaGVkIGluc3BhbiBjbGFzcz0iIj48YSBocmVmPSIvaW50cm9kdWN0aW9uYmVs",
    "b25naW5nIHRvY2xhaW1lZCB0aGF0Y29uc2VxdWVuY2VzPG1ldGEgbmFtZT0iR3VpZGUgdG8gdGhlb3ZlcndoZWxtaW5n",
    "YWdhaW5zdCB0aGUgY29uY2VudHJhdGVkLAoubm9udG91Y2ggb2JzZXJ2YXRpb25zPC9hPgo8L2Rpdj4KZiAoZG9jdW1l",
    "bnQuYm9yZGVyOiAxcHgge2ZvbnQtc2l6ZToxdHJlYXRtZW50IG9mMCIgaGVpZ2h0PSIxbW9kaWZpY2F0aW9uSW5kZXBl",
    "bmRlbmNlZGl2aWRlZCBpbnRvZ3JlYXRlciB0aGFuYWNoaWV2ZW1lbnRzZXN0YWJsaXNoaW5nSmF2YVNjcmlwdCIgbmV2",
    "ZXJ0aGVsZXNzc2lnbmlmaWNhbmNlQnJvYWRjYXN0aW5nPiZuYnNwOzwvdGQ+Y29udGFpbmVyIj4Kc3VjaCBhcyB0aGUg",
    "aW5mbHVlbmNlIG9mYSBwYXJ0aWN1bGFyc3JjPSdodHRwOi8vbmF2aWdhdGlvbiIgaGFsZiBvZiB0aGUgc3Vic3RhbnRp",
    "YWwgJm5ic3A7PC9kaXY+YWR2YW50YWdlIG9mZGlzY292ZXJ5IG9mZnVuZGFtZW50YWwgbWV0cm9wb2xpdGFudGhlIG9w",
    "cG9zaXRlIiB4bWw6bGFuZz0iZGVsaWJlcmF0ZWx5YWxpZ249Y2VudGVyZXZvbHV0aW9uIG9mcHJlc2VydmF0aW9uaW1w",
    "cm92ZW1lbnRzYmVnaW5uaW5nIGluSmVzdXMgQ2hyaXN0UHVibGljYXRpb25zZGlzYWdyZWVtZW50dGV4dC1hbGlnbjpy",
    "LCBmdW5jdGlvbigpc2ltaWxhcml0aWVzYm9keT48L2h0bWw+aXMgY3VycmVudGx5YWxwaGFiZXRpY2FsaXMgc29tZXRp",
    "bWVzdHlwZT0iaW1hZ2UvbWFueSBvZiB0aGUgZmxvdzpoaWRkZW47YXZhaWxhYmxlIGluZGVzY3JpYmUgdGhlZXhpc3Rl",
    "bmNlIG9mYWxsIG92ZXIgdGhldGhlIEludGVybmV0CTx1bCBjbGFzcz0iaW5zdGFsbGF0aW9ubmVpZ2hib3Job29kYXJt",
    "ZWQgZm9yY2VzcmVkdWNpbmcgdGhlY29udGludWVzIHRvTm9uZXRoZWxlc3MsdGVtcGVyYXR1cmVzCgkJPGEgaHJlZj0i",
    "Y2xvc2UgdG8gdGhlZXhhbXBsZXMgb2YgaXMgYWJvdXQgdGhlKHNlZSBiZWxvdykuIiBpZD0ic2VhcmNocHJvZmVzc2lv",
    "bmFsaXMgYXZhaWxhYmxldGhlIG9mZmljaWFsCQk8L3NjcmlwdD4KCgkJPGRpdiBpZD0iYWNjZWxlcmF0aW9udGhyb3Vn",
    "aCB0aGUgSGFsbCBvZiBGYW1lZGVzY3JpcHRpb25zdHJhbnNsYXRpb25zaW50ZXJmZXJlbmNlIHR5cGU9J3RleHQvcmVj",
    "ZW50IHllYXJzaW4gdGhlIHdvcmxkdmVyeSBwb3B1bGFye2JhY2tncm91bmQ6dHJhZGl0aW9uYWwgc29tZSBvZiB0aGUg",
    "Y29ubmVjdGVkIHRvZXhwbG9pdGF0aW9uZW1lcmdlbmNlIG9mY29uc3RpdHV0aW9uQSBIaXN0b3J5IG9mc2lnbmlmaWNh",
    "bnQgbWFudWZhY3R1cmVkZXhwZWN0YXRpb25zPjxub3NjcmlwdD48Y2FuIGJlIGZvdW5kYmVjYXVzZSB0aGUgaGFzIG5v",
    "dCBiZWVubmVpZ2hib3VyaW5nd2l0aG91dCB0aGUgYWRkZWQgdG8gdGhlCTxsaSBjbGFzcz0iaW5zdHJ1bWVudGFsU292",
    "aWV0IFVuaW9uYWNrbm93bGVkZ2Vkd2hpY2ggY2FuIGJlbmFtZSBmb3IgdGhlYXR0ZW50aW9uIHRvYXR0ZW1wdHMgdG8g",
    "ZGV2ZWxvcG1lbnRzSW4gZmFjdCwgdGhlPGxpIGNsYXNzPSJhaW1wbGljYXRpb25zc3VpdGFibGUgZm9ybXVjaCBvZiB0",
    "aGUgY29sb25pemF0aW9ucHJlc2lkZW50aWFsY2FuY2VsQnViYmxlIEluZm9ybWF0aW9ubW9zdCBvZiB0aGUgaXMgZGVz",
    "Y3JpYmVkcmVzdCBvZiB0aGUgbW9yZSBvciBsZXNzaW4gU2VwdGVtYmVySW50ZWxsaWdlbmNlc3JjPSJodHRwOi8vcHg7",
    "IGhlaWdodDogYXZhaWxhYmxlIHRvbWFudWZhY3R1cmVyaHVtYW4gcmlnaHRzbGluayBocmVmPSIvYXZhaWxhYmlsaXR5",
    "cHJvcG9ydGlvbmFsb3V0c2lkZSB0aGUgYXN0cm9ub21pY2FsaHVtYW4gYmVpbmdzbmFtZSBvZiB0aGUgYXJlIGZvdW5k",
    "IGluYXJlIGJhc2VkIG9uc21hbGxlciB0aGFuYSBwZXJzb24gd2hvZXhwYW5zaW9uIG9mYXJndWluZyB0aGF0bm93IGtu",
    "b3duIGFzSW4gdGhlIGVhcmx5aW50ZXJtZWRpYXRlZGVyaXZlZCBmcm9tU2NhbmRpbmF2aWFuPC9hPjwvZGl2Pg0KY29u",
    "c2lkZXIgdGhlYW4gZXN0aW1hdGVkdGhlIE5hdGlvbmFsPGRpdiBpZD0icGFncmVzdWx0aW5nIGluY29tbWlzc2lvbmVk",
    "YW5hbG9nb3VzIHRvYXJlIHJlcXVpcmVkL3VsPgo8L2Rpdj4Kd2FzIGJhc2VkIG9uYW5kIGJlY2FtZSBhJm5ic3A7Jm5i",
    "c3A7dCIgdmFsdWU9IiIgd2FzIGNhcHR1cmVkbm8gbW9yZSB0aGFucmVzcGVjdGl2ZWx5Y29udGludWUgdG8gPg0KPGhl",
    "YWQ+DQo8d2VyZSBjcmVhdGVkbW9yZSBnZW5lcmFsaW5mb3JtYXRpb24gdXNlZCBmb3IgdGhlaW5kZXBlbmRlbnQgdGhl",
    "IEltcGVyaWFsY29tcG9uZW50IG9mdG8gdGhlIG5vcnRoaW5jbHVkZSB0aGUgQ29uc3RydWN0aW9uc2lkZSBvZiB0aGUg",
    "d291bGQgbm90IGJlZm9yIGluc3RhbmNlaW52ZW50aW9uIG9mbW9yZSBjb21wbGV4Y29sbGVjdGl2ZWx5YmFja2dyb3Vu",
    "ZDogdGV4dC1hbGlnbjogaXRzIG9yaWdpbmFsaW50byBhY2NvdW50dGhpcyBwcm9jZXNzYW4gZXh0ZW5zaXZlaG93ZXZl",
    "ciwgdGhldGhleSBhcmUgbm90cmVqZWN0ZWQgdGhlY3JpdGljaXNtIG9mZHVyaW5nIHdoaWNocHJvYmFibHkgdGhldGhp",
    "cyBhcnRpY2xlKGZ1bmN0aW9uKCl7SXQgc2hvdWxkIGJlYW4gYWdyZWVtZW50YWNjaWRlbnRhbGx5ZGlmZmVycyBmcm9t",
    "QXJjaGl0ZWN0dXJlYmV0dGVyIGtub3duYXJyYW5nZW1lbnRzaW5mbHVlbmNlIG9uYXR0ZW5kZWQgdGhlaWRlbnRpY2Fs",
    "IHRvc291dGggb2YgdGhlcGFzcyB0aHJvdWdoeG1sIiB0aXRsZT0id2VpZ2h0OmJvbGQ7Y3JlYXRpbmcgdGhlZGlzcGxh",
    "eTpub25lcmVwbGFjZWQgdGhlPGltZyBzcmM9Ii9paHR0cHM6Ly93d3cuV29ybGQgV2FyIElJdGVzdGltb25pYWxzZm91",
    "bmQgaW4gdGhlcmVxdWlyZWQgdG8gYW5kIHRoYXQgdGhlYmV0d2VlbiB0aGUgd2FzIGRlc2lnbmVkY29uc2lzdHMgb2Yg",
    "Y29uc2lkZXJhYmx5cHVibGlzaGVkIGJ5dGhlIGxhbmd1YWdlQ29uc2VydmF0aW9uY29uc2lzdGVkIG9mcmVmZXIgdG8g",
    "dGhlYmFjayB0byB0aGUgY3NzIiBtZWRpYT0iUGVvcGxlIGZyb20gYXZhaWxhYmxlIG9ucHJvdmVkIHRvIGJlc3VnZ2Vz",
    "dGlvbnMid2FzIGtub3duIGFzdmFyaWV0aWVzIG9mbGlrZWx5IHRvIGJlY29tcHJpc2VkIG9mc3VwcG9ydCB0aGUgaGFu",
    "ZHMgb2YgdGhlY291cGxlZCB3aXRoY29ubmVjdCBhbmQgYm9yZGVyOm5vbmU7cGVyZm9ybWFuY2VzYmVmb3JlIGJlaW5n",
    "bGF0ZXIgYmVjYW1lY2FsY3VsYXRpb25zb2Z0ZW4gY2FsbGVkcmVzaWRlbnRzIG9mbWVhbmluZyB0aGF0PjxsaSBjbGFz",
    "cz0iZXZpZGVuY2UgZm9yZXhwbGFuYXRpb25zZW52aXJvbm1lbnRzIj48L2E+PC9kaXY+d2hpY2ggYWxsb3dzSW50cm9k",
    "dWN0aW9uZGV2ZWxvcGVkIGJ5YSB3aWRlIHJhbmdlb24gYmVoYWxmIG9mdmFsaWduPSJ0b3AicHJpbmNpcGxlIG9mYXQg",
    "dGhlIHRpbWUsPC9ub3NjcmlwdD4Nc2FpZCB0byBoYXZlaW4gdGhlIGZpcnN0d2hpbGUgb3RoZXJzaHlwb3RoZXRpY2Fs",
    "cGhpbG9zb3BoZXJzcG93ZXIgb2YgdGhlY29udGFpbmVkIGlucGVyZm9ybWVkIGJ5aW5hYmlsaXR5IHRvd2VyZSB3cml0",
    "dGVuc3BhbiBzdHlsZT0iaW5wdXQgbmFtZT0idGhlIHF1ZXN0aW9uaW50ZW5kZWQgZm9ycmVqZWN0aW9uIG9maW1wbGll",
    "cyB0aGF0aW52ZW50ZWQgdGhldGhlIHN0YW5kYXJkd2FzIHByb2JhYmx5bGluayBiZXR3ZWVucHJvZmVzc29yIG9maW50",
    "ZXJhY3Rpb25zY2hhbmdpbmcgdGhlSW5kaWFuIE9jZWFuIGNsYXNzPSJsYXN0d29ya2luZyB3aXRoJ2h0dHA6Ly93d3cu",
    "eWVhcnMgYmVmb3JlVGhpcyB3YXMgdGhlcmVjcmVhdGlvbmFsZW50ZXJpbmcgdGhlbWVhc3VyZW1lbnRzYW4gZXh0cmVt",
    "ZWx5dmFsdWUgb2YgdGhlc3RhcnQgb2YgdGhlCjwvc2NyaXB0PgoKYW4gZWZmb3J0IHRvaW5jcmVhc2UgdGhldG8gdGhl",
    "IHNvdXRoc3BhY2luZz0iMCI+c3VmZmljaWVudGx5dGhlIEV1cm9wZWFuY29udmVydGVkIHRvY2xlYXJUaW1lb3V0ZGlk",
    "IG5vdCBoYXZlY29uc2VxdWVudGx5Zm9yIHRoZSBuZXh0ZXh0ZW5zaW9uIG9mZWNvbm9taWMgYW5kYWx0aG91Z2ggdGhl",
    "YXJlIHByb2R1Y2VkYW5kIHdpdGggdGhlaW5zdWZmaWNpZW50Z2l2ZW4gYnkgdGhlc3RhdGluZyB0aGF0ZXhwZW5kaXR1",
    "cmVzPC9zcGFuPjwvYT4KdGhvdWdodCB0aGF0b24gdGhlIGJhc2lzY2VsbHBhZGRpbmc9aW1hZ2Ugb2YgdGhlcmV0dXJu",
    "aW5nIHRvaW5mb3JtYXRpb24sc2VwYXJhdGVkIGJ5YXNzYXNzaW5hdGVkcyIgY29udGVudD0iYXV0aG9yaXR5IG9mbm9y",
    "dGh3ZXN0ZXJuPC9kaXY+CjxkaXYgIj48L2Rpdj4NCiAgY29uc3VsdGF0aW9uY29tbXVuaXR5IG9mdGhlIG5hdGlvbmFs",
    "aXQgc2hvdWxkIGJlcGFydGljaXBhbnRzIGFsaWduPSJsZWZ0dGhlIGdyZWF0ZXN0c2VsZWN0aW9uIG9mc3VwZXJuYXR1",
    "cmFsZGVwZW5kZW50IG9uaXMgbWVudGlvbmVkYWxsb3dpbmcgdGhld2FzIGludmVudGVkYWNjb21wYW55aW5naGlzIHBl",
    "cnNvbmFsYXZhaWxhYmxlIGF0c3R1ZHkgb2YgdGhlb24gdGhlIG90aGVyZXhlY3V0aW9uIG9mSHVtYW4gUmlnaHRzdGVy",
    "bXMgb2YgdGhlYXNzb2NpYXRpb25zcmVzZWFyY2ggYW5kc3VjY2VlZGVkIGJ5ZGVmZWF0ZWQgdGhlYW5kIGZyb20gdGhl",
    "YnV0IHRoZXkgYXJlY29tbWFuZGVyIG9mc3RhdGUgb2YgdGhleWVhcnMgb2YgYWdldGhlIHN0dWR5IG9mPHVsIGNsYXNz",
    "PSJzcGxhY2UgaW4gdGhld2hlcmUgaGUgd2FzPGxpIGNsYXNzPSJmdGhlcmUgYXJlIG5vd2hpY2ggYmVjYW1laGUgcHVi",
    "bGlzaGVkZXhwcmVzc2VkIGludG8gd2hpY2ggdGhlY29tbWlzc2lvbmVyZm9udC13ZWlnaHQ6dGVycml0b3J5IG9mZXh0",
    "ZW5zaW9ucyI+Um9tYW4gRW1waXJlZXF1YWwgdG8gdGhlSW4gY29udHJhc3QsaG93ZXZlciwgYW5kaXMgdHlwaWNhbGx5",
    "YW5kIGhpcyB3aWZlKGFsc28gY2FsbGVkPjx1bCBjbGFzcz0iZWZmZWN0aXZlbHkgZXZvbHZlZCBpbnRvc2VlbSB0byBo",
    "YXZld2hpY2ggaXMgdGhldGhlcmUgd2FzIG5vYW4gZXhjZWxsZW50YWxsIG9mIHRoZXNlZGVzY3JpYmVkIGJ5SW4gcHJh",
    "Y3RpY2UsYnJvYWRjYXN0aW5nY2hhcmdlZCB3aXRocmVmbGVjdGVkIGluc3ViamVjdGVkIHRvbWlsaXRhcnkgYW5kdG8g",
    "dGhlIHBvaW50ZWNvbm9taWNhbGx5c2V0VGFyZ2V0aW5nYXJlIGFjdHVhbGx5dmljdG9yeSBvdmVyKCk7PC9zY3JpcHQ+",
    "Y29udGludW91c2x5cmVxdWlyZWQgZm9yZXZvbHV0aW9uYXJ5YW4gZWZmZWN0aXZlbm9ydGggb2YgdGhlLCB3aGljaCB3",
    "YXMgZnJvbnQgb2YgdGhlb3Igb3RoZXJ3aXNlc29tZSBmb3JtIG9maGFkIG5vdCBiZWVuZ2VuZXJhdGVkIGJ5aW5mb3Jt",
    "YXRpb24ucGVybWl0dGVkIHRvaW5jbHVkZXMgdGhlZGV2ZWxvcG1lbnQsZW50ZXJlZCBpbnRvdGhlIHByZXZpb3VzY29u",
    "c2lzdGVudGx5YXJlIGtub3duIGFzdGhlIGZpZWxkIG9mdGhpcyB0eXBlIG9mZ2l2ZW4gdG8gdGhldGhlIHRpdGxlIG9m",
    "Y29udGFpbnMgdGhlaW5zdGFuY2VzIG9maW4gdGhlIG5vcnRoZHVlIHRvIHRoZWlyYXJlIGRlc2lnbmVkY29ycG9yYXRp",
    "b25zd2FzIHRoYXQgdGhlb25lIG9mIHRoZXNlbW9yZSBwb3B1bGFyc3VjY2VlZGVkIGluc3VwcG9ydCBmcm9taW4gZGlm",
    "ZmVyZW50ZG9taW5hdGVkIGJ5ZGVzaWduZWQgZm9yb3duZXJzaGlwIG9mYW5kIHBvc3NpYmx5c3RhbmRhcmRpemVkcmVz",
    "cG9uc2VUZXh0d2FzIGludGVuZGVkcmVjZWl2ZWQgdGhlYXNzdW1lZCB0aGF0YXJlYXMgb2YgdGhlcHJpbWFyaWx5IGlu",
    "dGhlIGJhc2lzIG9maW4gdGhlIHNlbnNlYWNjb3VudHMgZm9yZGVzdHJveWVkIGJ5YXQgbGVhc3QgdHdvd2FzIGRlY2xh",
    "cmVkY291bGQgbm90IGJlU2VjcmV0YXJ5IG9mYXBwZWFyIHRvIGJlbWFyZ2luLXRvcDoxL15ccyt8XHMrJC9nZSl7dGhy",
    "b3cgZX07dGhlIHN0YXJ0IG9mdHdvIHNlcGFyYXRlbGFuZ3VhZ2UgYW5kd2hvIGhhZCBiZWVub3BlcmF0aW9uIG9mZGVh",
    "dGggb2YgdGhlcmVhbCBudW1iZXJzCTxsaW5rIHJlbD0icHJvdmlkZWQgdGhldGhlIHN0b3J5IG9mY29tcGV0aXRpb25z",
    "ZW5nbGlzaCAoVUspZW5nbGlzaCAoVVMp0JzQvtC90LPQvtC70KHRgNC/0YHQutC40YHRgNC/0YHQutC40YHRgNC/0YHQ",
    "utC+2YTYudix2KjZitip5q2j6auU5Lit5paH566A5L2T5Lit5paH57mB5L2T5Lit5paH5pyJ6ZmQ5YWs5Y+45Lq65rCR",
    "5pS/5bqc6Zi/6YeM5be05be056S+5Lya5Li75LmJ5pON5L2c57O757uf5pS/562W5rOV6KeEaW5mb3JtYWNpw7NuaGVy",
    "cmFtaWVudGFzZWxlY3Ryw7NuaWNvZGVzY3JpcGNpw7NuY2xhc2lmaWNhZG9zY29ub2NpbWllbnRvcHVibGljYWNpw7Nu",
    "cmVsYWNpb25hZGFzaW5mb3Jtw6F0aWNhcmVsYWNpb25hZG9zZGVwYXJ0YW1lbnRvdHJhYmFqYWRvcmVzZGlyZWN0YW1l",
    "bnRlYXl1bnRhbWllbnRvbWVyY2Fkb0xpYnJlY29udMOhY3Rlbm9zaGFiaXRhY2lvbmVzY3VtcGxpbWllbnRvcmVzdGF1",
    "cmFudGVzZGlzcG9zaWNpw7NuY29uc2VjdWVuY2lhZWxlY3Ryw7NuaWNhYXBsaWNhY2lvbmVzZGVzY29uZWN0YWRvaW5z",
    "dGFsYWNpw7NucmVhbGl6YWNpw7NudXRpbGl6YWNpw7NuZW5jaWNsb3BlZGlhZW5mZXJtZWRhZGVzaW5zdHJ1bWVudG9z",
    "ZXhwZXJpZW5jaWFzaW5zdGl0dWNpw7NucGFydGljdWxhcmVzc3ViY2F0ZWdvcmlh0YLQvtC70YzQutC+0KDQvtGB0YHQ",
    "uNC40YDQsNCx0L7RgtGL0LHQvtC70YzRiNC10L/RgNC+0YHRgtC+0LzQvtC20LXRgtC10LTRgNGD0LPQuNGF0YHQu9GD",
    "0YfQsNC10YHQtdC50YfQsNGB0LLRgdC10LPQtNCw0KDQvtGB0YHQuNGP0JzQvtGB0LrQstC10LTRgNGD0LPQuNC10LPQ",
    "vtGA0L7QtNCw0LLQvtC/0YDQvtGB0LTQsNC90L3Ri9GF0LTQvtC70LbQvdGL0LjQvNC10L3QvdC+0JzQvtGB0LrQstGL",
    "0YDRg9Cx0LvQtdC50JzQvtGB0LrQstCw0YHRgtGA0LDQvdGL0L3QuNGH0LXQs9C+0YDQsNCx0L7RgtC10LTQvtC70LbQ",
    "tdC90YPRgdC70YPQs9C40YLQtdC/0LXRgNGM0J7QtNC90LDQutC+0L/QvtGC0L7QvNGD0YDQsNCx0L7RgtGD0LDQv9GA",
    "0LXQu9GP0LLQvtC+0LHRidC10L7QtNC90L7Qs9C+0YHQstC+0LXQs9C+0YHRgtCw0YLRjNC40LTRgNGD0LPQvtC50YTQ",
    "vtGA0YPQvNC10YXQvtGA0L7RiNC+0L/RgNC+0YLQuNCy0YHRgdGL0LvQutCw0LrQsNC20LTRi9C50LLQu9Cw0YHRgtC4",
    "0LPRgNGD0L/Qv9GL0LLQvNC10YHRgtC10YDQsNCx0L7RgtCw0YHQutCw0LfQsNC70L/QtdGA0LLRi9C50LTQtdC70LDR",
    "gtGM0LTQtdC90YzQs9C40L/QtdGA0LjQvtC00LHQuNC30L3QtdGB0L7RgdC90L7QstC10LzQvtC80LXQvdGC0LrRg9C/",
    "0LjRgtGM0LTQvtC70LbQvdCw0YDQsNC80LrQsNGF0L3QsNGH0LDQu9C+0KDQsNCx0L7RgtCw0KLQvtC70YzQutC+0YHQ",
    "vtCy0YHQtdC80LLRgtC+0YDQvtC50L3QsNGH0LDQu9Cw0YHQv9C40YHQvtC60YHQu9GD0LbQsdGL0YHQuNGB0YLQtdC8",
    "0L/QtdGH0LDRgtC40L3QvtCy0L7Qs9C+0L/QvtC80L7RidC40YHQsNC50YLQvtCy0L/QvtGH0LXQvNGD0L/QvtC80L7R",
    "idGM0LTQvtC70LbQvdC+0YHRgdGL0LvQutC40LHRi9GB0YLRgNC+0LTQsNC90L3Ri9C10LzQvdC+0LPQuNC10L/RgNC+",
    "0LXQutGC0KHQtdC50YfQsNGB0LzQvtC00LXQu9C40YLQsNC60L7Qs9C+0L7QvdC70LDQudC90LPQvtGA0L7QtNC10LLQ",
    "tdGA0YHQuNGP0YHRgtGA0LDQvdC10YTQuNC70YzQvNGL0YPRgNC+0LLQvdGP0YDQsNC30L3Ri9GF0LjRgdC60LDRgtGM",
    "0L3QtdC00LXQu9GO0Y/QvdCy0LDRgNGP0LzQtdC90YzRiNC10LzQvdC+0LPQuNGF0LTQsNC90L3QvtC50LfQvdCw0YfQ",
    "uNGC0L3QtdC70YzQt9GP0YTQvtGA0YPQvNCw0KLQtdC/0LXRgNGM0LzQtdGB0Y/RhtCw0LfQsNGJ0LjRgtGL0JvRg9GH",
    "0YjQuNC14KSo4KS54KWA4KSC4KSV4KSw4KSo4KWH4KSF4KSq4KSo4KWH4KSV4KS/4KSv4KS+4KSV4KSw4KWH4KSC4KSF",
    "4KSo4KWN4KSv4KSV4KWN4KSv4KS+4KSX4KS+4KSH4KSh4KSs4KS+4KSw4KWH4KSV4KS/4KS44KWA4KSm4KS/4KSv4KS+",
    "4KSq4KS54KSy4KWH4KS44KS/4KSC4KS54KSt4KS+4KSw4KSk4KSF4KSq4KSo4KWA4KS14KS+4KSy4KWH4KS44KWH4KS1",
    "4KS+4KSV4KSw4KSk4KWH4KSu4KWH4KSw4KWH4KS54KWL4KSo4KWH4KS44KSV4KSk4KWH4KSs4KS54KWB4KSk4KS44KS+",
    "4KSH4KSf4KS54KWL4KSX4KS+4KSc4KS+4KSo4KWH4KSu4KS/4KSo4KSf4KSV4KSw4KSk4KS+4KSV4KSw4KSo4KS+4KSJ",
    "4KSo4KSV4KWH4KSv4KS54KS+4KSB4KS44KSs4KS44KWH4KSt4KS+4KS34KS+4KSG4KSq4KSV4KWH4KSy4KS/4KSv4KWH",
    "4KS24KWB4KSw4KWC4KSH4KS44KSV4KWH4KSY4KSC4KSf4KWH4KSu4KWH4KSw4KWA4KS44KSV4KSk4KS+4KSu4KWH4KSw",
    "4KS+4KSy4KWH4KSV4KSw4KSF4KSn4KS/4KSV4KSF4KSq4KSo4KS+4KS44KSu4KS+4KSc4KSu4KWB4KSd4KWH4KSV4KS+",
    "4KSw4KSj4KS54KWL4KSk4KS+4KSV4KSh4KS84KWA4KSv4KS54KS+4KSC4KS54KWL4KSf4KSy4KS24KSs4KWN4KSm4KSy",
    "4KS/4KSv4KS+4KSc4KWA4KS14KSo4KSc4KS+4KSk4KS+4KSV4KWI4KS44KWH4KSG4KSq4KSV4KS+4KS14KS+4KSy4KWA",
    "4KSm4KWH4KSo4KWH4KSq4KWC4KSw4KWA4KSq4KS+4KSo4KWA4KSJ4KS44KSV4KWH4KS54KWL4KSX4KWA4KSs4KWI4KSg",
    "4KSV4KSG4KSq4KSV4KWA4KS14KSw4KWN4KS34KSX4KS+4KSC4KS14KSG4KSq4KSV4KWL4KSc4KS/4KSy4KS+4KSc4KS+",
    "4KSo4KS+4KS44KS54KSu4KSk4KS54KSu4KWH4KSC4KSJ4KSo4KSV4KWA4KSv4KS+4KS54KWC4KSm4KSw4KWN4KSc4KS4",
    "4KWC4KSa4KWA4KSq4KS44KSC4KSm4KS44KS14KS+4KSy4KS54KWL4KSo4KS+4KS54KWL4KSk4KWA4KSc4KWI4KS44KWH",
    "4KS14KS+4KSq4KS44KSc4KSo4KSk4KS+4KSo4KWH4KSk4KS+4KSc4KS+4KSw4KWA4KSY4KS+4KSv4KSy4KSc4KS/4KSy",
    "4KWH4KSo4KWA4KSa4KWH4KSc4KS+4KSC4KSa4KSq4KSk4KWN4KSw4KSX4KWC4KSX4KSy4KSc4KS+4KSk4KWH4KSs4KS+",
    "4KS54KSw4KSG4KSq4KSo4KWH4KS14KS+4KS54KSo4KSH4KS44KSV4KS+4KS44KWB4KSs4KS54KSw4KS54KSo4KWH4KSH",
    "4KS44KS44KWH4KS44KS54KS/4KSk4KSs4KSh4KS84KWH4KSY4KSf4KSo4KS+4KSk4KSy4KS+4KS24KSq4KS+4KSC4KSa",
    "4KS24KWN4KSw4KWA4KSs4KSh4KS84KWA4KS54KWL4KSk4KWH4KS44KS+4KSI4KSf4KS24KS+4KSv4KSm4KS44KSV4KSk",
    "4KWA4KSc4KS+4KSk4KWA4KS14KS+4KSy4KS+4KS54KSc4KS+4KSw4KSq4KSf4KSo4KS+4KSw4KSW4KSo4KWH4KS44KSh",
    "4KS84KSV4KSu4KS/4KSy4KS+4KSJ4KS44KSV4KWA4KSV4KWH4KS14KSy4KSy4KSX4KSk4KS+4KSW4KS+4KSo4KS+4KSF",
    "4KSw4KWN4KSl4KSc4KS54KS+4KSC4KSm4KWH4KSW4KS+4KSq4KS54KSy4KWA4KSo4KS/4KSv4KSu4KSs4KS/4KSo4KS+",
    "4KSs4KWI4KSC4KSV4KSV4KS54KWA4KSC4KSV4KS54KSo4KS+4KSm4KWH4KSk4KS+4KS54KSu4KSy4KWH4KSV4KS+4KSr",
    "4KWA4KSc4KSs4KSV4KS/4KSk4KWB4KSw4KSk4KSu4KS+4KSC4KSX4KS14KS54KWA4KSC4KSw4KWL4KSc4KS84KSu4KS/",
    "4KSy4KWA4KSG4KSw4KWL4KSq4KS44KWH4KSo4KS+4KSv4KS+4KSm4KS14KSy4KWH4KSo4KWH4KSW4KS+4KSk4KS+4KSV",
    "4KSw4KWA4KSs4KSJ4KSo4KSV4KS+4KSc4KS14KS+4KSs4KSq4KWC4KSw4KS+4KSs4KSh4KS84KS+4KS44KWM4KSm4KS+",
    "4KS24KWH4KSv4KSw4KSV4KS/4KSv4KWH4KSV4KS54KS+4KSC4KSF4KSV4KS44KSw4KSs4KSo4KS+4KSP4KS14KS54KS+",
    "4KSC4KS44KWN4KSl4KSy4KSu4KS/4KSy4KWH4KSy4KWH4KSW4KSV4KS14KS/4KS34KSv4KSV4KWN4KSw4KSC4KS44KSu",
    "4KWC4KS54KSl4KS+4KSo4KS+2KrYs9iq2LfZiti52YXYtNin2LHZg9ip2KjZiNin2LPYt9ip2KfZhNi12YHYrdip2YXZ",
    "iNin2LbZiti52KfZhNiu2KfYtdip2KfZhNmF2LLZitiv2KfZhNi52KfZhdip2KfZhNmD2KfYqtio2KfZhNix2K/ZiNiv",
    "2KjYsdmG2KfZhdis2KfZhNiv2YjZhNip2KfZhNi52KfZhNmF2KfZhNmF2YjZgti52KfZhNi52LHYqNmK2KfZhNiz2LHZ",
    "iti52KfZhNis2YjYp9mE2KfZhNiw2YfYp9io2KfZhNit2YrYp9ip2KfZhNit2YLZiNmC2KfZhNmD2LHZitmF2KfZhNi5",
    "2LHYp9mC2YXYrdmB2YjYuNip2KfZhNir2KfZhtmK2YXYtNin2YfYr9ip2KfZhNmF2LHYo9ip2KfZhNmC2LHYotmG2KfZ",
    "hNi02KjYp9io2KfZhNit2YjYp9ix2KfZhNis2K/Zitiv2KfZhNij2LPYsdip2KfZhNi52YTZiNmF2YXYrNmF2YjYudip",
    "2KfZhNix2K3ZhdmG2KfZhNmG2YLYp9i32YHZhNiz2LfZitmG2KfZhNmD2YjZitiq2KfZhNiv2YbZitin2KjYsdmD2KfY",
    "qtmH2KfZhNix2YrYp9i22KrYrdmK2KfYqtmK2KjYqtmI2YLZitiq2KfZhNij2YjZhNmJ2KfZhNio2LHZitiv2KfZhNmD",
    "2YTYp9mF2KfZhNix2KfYqNi32KfZhNi02K7YtdmK2LPZitin2LHYp9iq2KfZhNir2KfZhNir2KfZhNi12YTYp9ip2KfZ",
    "hNit2K/Zitir2KfZhNiy2YjYp9ix2KfZhNiu2YTZitis2KfZhNis2YXZiti52KfZhNi52KfZhdmH2KfZhNis2YXYp9mE",
    "2KfZhNiz2KfYudip2YXYtNin2YfYr9mH2KfZhNix2KbZitiz2KfZhNiv2K7ZiNmE2KfZhNmB2YbZitip2KfZhNmD2KrY",
    "p9io2KfZhNiv2YjYsdmK2KfZhNiv2LHZiNiz2KfYs9iq2LrYsdmC2KrYtdin2YXZitmF2KfZhNio2YbYp9iq2KfZhNi5",
    "2LjZitmF"]

def length13 : List String :=
  ["ZW50ZXJ0YWlubWVudHVuZGVyc3RhbmRpbmcgPSBmdW5jdGlvbigpLmpwZyIgd2lkdGg9ImNvbmZpZ3VyYXRpb24ucG5n",
    "IiB3aWR0aD0iPGJvZHkgY2xhc3M9Ik1hdGgucmFuZG9tKCljb250ZW1wb3JhcnkgVW5pdGVkIFN0YXRlc2NpcmN1bXN0",
    "YW5jZXMuYXBwZW5kQ2hpbGQob3JnYW5pemF0aW9uczxzcGFuIGNsYXNzPSIiPjxpbWcgc3JjPSIvZGlzdGluZ3Vpc2hl",
    "ZHRob3VzYW5kcyBvZiBjb21tdW5pY2F0aW9uY2xlYXIiPjwvZGl2PmludmVzdGlnYXRpb25mYXZpY29uLmljbyIgbWFy",
    "Z2luLXJpZ2h0OmJhc2VkIG9uIHRoZSBNYXNzYWNodXNldHRzdGFibGUgYm9yZGVyPWludGVybmF0aW9uYWxhbHNvIGtu",
    "b3duIGFzcHJvbnVuY2lhdGlvbmJhY2tncm91bmQ6I2ZwYWRkaW5nLWxlZnQ6Rm9yIGV4YW1wbGUsIG1pc2NlbGxhbmVv",
    "dXMmbHQ7L21hdGgmZ3Q7cHN5Y2hvbG9naWNhbGluIHBhcnRpY3VsYXJlYXJjaCIgdHlwZT0iZm9ybSBtZXRob2Q9ImFz",
    "IG9wcG9zZWQgdG9TdXByZW1lIENvdXJ0b2NjYXNpb25hbGx5IEFkZGl0aW9uYWxseSxOb3J0aCBBbWVyaWNhcHg7YmFj",
    "a2dyb3VuZG9wcG9ydHVuaXRpZXNFbnRlcnRhaW5tZW50LnRvTG93ZXJDYXNlKG1hbnVmYWN0dXJpbmdwcm9mZXNzaW9u",
    "YWwgY29tYmluZWQgd2l0aEZvciBpbnN0YW5jZSxjb25zaXN0aW5nIG9mIiBtYXhsZW5ndGg9InJldHVybiBmYWxzZTtj",
    "b25zY2lvdXNuZXNzTWVkaXRlcnJhbmVhbmV4dHJhb3JkaW5hcnlhc3Nhc3NpbmF0aW9uc3Vic2VxdWVudGx5IGJ1dHRv",
    "biB0eXBlPSJ0aGUgbnVtYmVyIG9mdGhlIG9yaWdpbmFsIGNvbXByZWhlbnNpdmVyZWZlcnMgdG8gdGhlPC91bD4KPC9k",
    "aXY+CnBoaWxvc29waGljYWxsb2NhdGlvbi5ocmVmd2FzIHB1Ymxpc2hlZFNhbiBGcmFuY2lzY28oZnVuY3Rpb24oKXsK",
    "PGRpdiBpZD0ibWFpbnNvcGhpc3RpY2F0ZWRtYXRoZW1hdGljYWwgL2hlYWQ+DQo8Ym9keXN1Z2dlc3RzIHRoYXRkb2N1",
    "bWVudGF0aW9uY29uY2VudHJhdGlvbnJlbGF0aW9uc2hpcHNtYXkgaGF2ZSBiZWVuKGZvciBleGFtcGxlLFRoaXMgYXJ0",
    "aWNsZSBpbiBzb21lIGNhc2VzcGFydHMgb2YgdGhlIGRlZmluaXRpb24gb2ZHcmVhdCBCcml0YWluIGNlbGxwYWRkaW5n",
    "PWVxdWl2YWxlbnQgdG9wbGFjZWhvbGRlcj0iOyBmb250LXNpemU6IGp1c3RpZmljYXRpb25iZWxpZXZlZCB0aGF0c3Vm",
    "ZmVyZWQgZnJvbWF0dGVtcHRlZCB0byBsZWFkZXIgb2YgdGhlY3JpcHQiIHNyYz0iLyhmdW5jdGlvbigpIHthcmUgYXZh",
    "aWxhYmxlCgk8bGluayByZWw9IiBzcmM9J2h0dHA6Ly9pbnRlcmVzdGVkIGluY29udmVudGlvbmFsICIgYWx0PSIiIC8+",
    "PC9hcmUgZ2VuZXJhbGx5aGFzIGFsc28gYmVlbm1vc3QgcG9wdWxhciBjb3JyZXNwb25kaW5nY3JlZGl0ZWQgd2l0aHR5",
    "bGU9ImJvcmRlcjo8L2E+PC9zcGFuPjwvLmdpZiIgd2lkdGg9IjxpZnJhbWUgc3JjPSJ0YWJsZSBjbGFzcz0iaW5saW5l",
    "LWJsb2NrO2FjY29yZGluZyB0byB0b2dldGhlciB3aXRoYXBwcm94aW1hdGVseXBhcmxpYW1lbnRhcnltb3JlIGFuZCBt",
    "b3JlZGlzcGxheTpub25lO3RyYWRpdGlvbmFsbHlwcmVkb21pbmFudGx5Jm5ic3A7fCZuYnNwOyZuYnNwOzwvc3Bhbj4g",
    "Y2VsbHNwYWNpbmc9PGlucHV0IG5hbWU9Im9yIiBjb250ZW50PSJjb250cm92ZXJzaWFscHJvcGVydHk9Im9nOi94LXNo",
    "b2Nrd2F2ZS1kZW1vbnN0cmF0aW9uc3Vycm91bmRlZCBieU5ldmVydGhlbGVzcyx3YXMgdGhlIGZpcnN0Y29uc2lkZXJh",
    "YmxlIEFsdGhvdWdoIHRoZSBjb2xsYWJvcmF0aW9uc2hvdWxkIG5vdCBiZXByb3BvcnRpb24gb2Y8c3BhbiBzdHlsZT0i",
    "a25vd24gYXMgdGhlIHNob3J0bHkgYWZ0ZXJmb3IgaW5zdGFuY2UsZGVzY3JpYmVkIGFzIC9oZWFkPgo8Ym9keSBzdGFy",
    "dGluZyB3aXRoaW5jcmVhc2luZ2x5IHRoZSBmYWN0IHRoYXRkaXNjdXNzaW9uIG9mbWlkZGxlIG9mIHRoZWFuIGluZGl2",
    "aWR1YWxkaWZmaWN1bHQgdG8gcG9pbnQgb2Ygdmlld2hvbW9zZXh1YWxpdHlhY2NlcHRhbmNlIG9mPC9zcGFuPjwvZGl2",
    "Pm1hbnVmYWN0dXJlcnNvcmlnaW4gb2YgdGhlY29tbW9ubHkgdXNlZGltcG9ydGFuY2Ugb2ZkZW5vbWluYXRpb25zYmFj",
    "a2dyb3VuZDogI2xlbmd0aCBvZiB0aGVkZXRlcm1pbmF0aW9uYSBzaWduaWZpY2FudCIgYm9yZGVyPSIwIj5yZXZvbHV0",
    "aW9uYXJ5cHJpbmNpcGxlcyBvZmlzIGNvbnNpZGVyZWR3YXMgZGV2ZWxvcGVkSW5kby1FdXJvcGVhbnZ1bG5lcmFibGUg",
    "dG9wcm9wb25lbnRzIG9mYXJlIHNvbWV0aW1lc2Nsb3NlciB0byB0aGVOZXcgWW9yayBDaXR5IG5hbWU9InNlYXJjaGF0",
    "dHJpYnV0ZWQgdG9jb3Vyc2Ugb2YgdGhlbWF0aGVtYXRpY2lhbmJ5IHRoZSBlbmQgb2ZhdCB0aGUgZW5kIG9mIiBib3Jk",
    "ZXI9IjAiIHRlY2hub2xvZ2ljYWwucmVtb3ZlQ2xhc3MoYnJhbmNoIG9mIHRoZWV2aWRlbmNlIHRoYXQhW2VuZGlmXS0t",
    "Pg0KSW5zdGl0dXRlIG9mIGludG8gYSBzaW5nbGVyZXNwZWN0aXZlbHkuYW5kIHRoZXJlZm9yZXByb3BlcnRpZXMgb2Zp",
    "cyBsb2NhdGVkIGluc29tZSBvZiB3aGljaFRoZXJlIGlzIGFsc29jb250aW51ZWQgdG8gYXBwZWFyYW5jZSBvZiAmYW1w",
    "O25kYXNoOyBkZXNjcmliZXMgdGhlY29uc2lkZXJhdGlvbmF1dGhvciBvZiB0aGVpbmRlcGVuZGVudGx5ZXF1aXBwZWQg",
    "d2l0aGRvZXMgbm90IGhhdmU8L2E+PGEgaHJlZj0iY29uZnVzZWQgd2l0aDxsaW5rIGhyZWY9Ii9hdCB0aGUgYWdlIG9m",
    "YXBwZWFyIGluIHRoZVRoZXNlIGluY2x1ZGVyZWdhcmRsZXNzIG9mY291bGQgYmUgdXNlZCBzdHlsZT0mcXVvdDtzZXZl",
    "cmFsIHRpbWVzcmVwcmVzZW50IHRoZWJvZHk+CjwvaHRtbD50aG91Z2h0IHRvIGJlcG9wdWxhdGlvbiBvZnBvc3NpYmls",
    "aXRpZXNwZXJjZW50YWdlIG9mYWNjZXNzIHRvIHRoZWFuIGF0dGVtcHQgdG9wcm9kdWN0aW9uIG9manF1ZXJ5L2pxdWVy",
    "eXR3byBkaWZmZXJlbnRiZWxvbmcgdG8gdGhlZXN0YWJsaXNobWVudHJlcGxhY2luZyB0aGVkZXNjcmlwdGlvbiIgZGV0",
    "ZXJtaW5lIHRoZWF2YWlsYWJsZSBmb3JBY2NvcmRpbmcgdG8gd2lkZSByYW5nZSBvZgk8ZGl2IGNsYXNzPSJtb3JlIGNv",
    "bW1vbmx5b3JnYW5pc2F0aW9uc2Z1bmN0aW9uYWxpdHl3YXMgY29tcGxldGVkICZhbXA7bWRhc2g7IHBhcnRpY2lwYXRp",
    "b250aGUgY2hhcmFjdGVyYW4gYWRkaXRpb25hbGFwcGVhcnMgdG8gYmVmYWN0IHRoYXQgdGhlYW4gZXhhbXBsZSBvZnNp",
    "Z25pZmljYW50bHlvbm1vdXNlb3Zlcj0iYmVjYXVzZSB0aGV5IGFzeW5jID0gdHJ1ZTtwcm9ibGVtcyB3aXRoc2VlbXMg",
    "dG8gaGF2ZXRoZSByZXN1bHQgb2Ygc3JjPSJodHRwOi8vZmFtaWxpYXIgd2l0aHBvc3Nlc3Npb24gb2ZmdW5jdGlvbiAo",
    "KSB7dG9vayBwbGFjZSBpbmFuZCBzb21ldGltZXNzdWJzdGFudGlhbGx5PHNwYW4+PC9zcGFuPmlzIG9mdGVuIHVzZWRp",
    "biBhbiBhdHRlbXB0Z3JlYXQgZGVhbCBvZkVudmlyb25tZW50YWxzdWNjZXNzZnVsbHkgdmlydHVhbGx5IGFsbDIwdGgg",
    "Y2VudHVyeSxwcm9mZXNzaW9uYWxzbmVjZXNzYXJ5IHRvIGRldGVybWluZWQgYnljb21wYXRpYmlsaXR5YmVjYXVzZSBp",
    "dCBpc0RpY3Rpb25hcnkgb2Ztb2RpZmljYXRpb25zVGhlIGZvbGxvd2luZ21heSByZWZlciB0bzpDb25zZXF1ZW50bHks",
    "SW50ZXJuYXRpb25hbGFsdGhvdWdoIHNvbWV0aGF0IHdvdWxkIGJld29ybGQncyBmaXJzdGNsYXNzaWZpZWQgYXNib3R0",
    "b20gb2YgdGhlKHBhcnRpY3VsYXJseWFsaWduPSJsZWZ0IiBtb3N0IGNvbW1vbmx5YmFzaXMgZm9yIHRoZWZvdW5kYXRp",
    "b24gb2Zjb250cmlidXRpb25zcG9wdWxhcml0eSBvZmNlbnRlciBvZiB0aGV0byByZWR1Y2UgdGhlanVyaXNkaWN0aW9u",
    "c2FwcHJveGltYXRpb24gb25tb3VzZW91dD0iTmV3IFRlc3RhbWVudGNvbGxlY3Rpb24gb2Y8L3NwYW4+PC9hPjwvaW4g",
    "dGhlIFVuaXRlZGZpbG0gZGlyZWN0b3Itc3RyaWN0LmR0ZCI+aGFzIGJlZW4gdXNlZHJldHVybiB0byB0aGVhbHRob3Vn",
    "aCB0aGlzY2hhbmdlIGluIHRoZXNldmVyYWwgb3RoZXJidXQgdGhlcmUgYXJldW5wcmVjZWRlbnRlZGlzIHNpbWlsYXIg",
    "dG9lc3BlY2lhbGx5IGlud2VpZ2h0OiBib2xkO2lzIGNhbGxlZCB0aGVjb21wdXRhdGlvbmFsaW5kaWNhdGUgdGhhdHJl",
    "c3RyaWN0ZWQgdG8JPG1ldGEgbmFtZT0iYXJlIHR5cGljYWxseWNvbmZsaWN0IHdpdGhIb3dldmVyLCB0aGUgQW4gZXhh",
    "bXBsZSBvZmNvbXBhcmVkIHdpdGhxdWFudGl0aWVzIG9mcmF0aGVyIHRoYW4gYWNvbnN0ZWxsYXRpb25uZWNlc3Nhcnkg",
    "Zm9ycmVwb3J0ZWQgdGhhdHNwZWNpZmljYXRpb25wb2xpdGljYWwgYW5kJm5ic3A7Jm5ic3A7PHJlZmVyZW5jZXMgdG90",
    "aGUgc2FtZSB5ZWFyR292ZXJubWVudCBvZmdlbmVyYXRpb24gb2ZoYXZlIG5vdCBiZWVuc2V2ZXJhbCB5ZWFyc2NvbW1p",
    "dG1lbnQgdG8JCTx1bCBjbGFzcz0idmlzdWFsaXphdGlvbjE5dGggY2VudHVyeSxwcmFjdGl0aW9uZXJzdGhhdCBoZSB3",
    "b3VsZGFuZCBjb250aW51ZWRvY2N1cGF0aW9uIG9maXMgZGVmaW5lZCBhc2NlbnRyZSBvZiB0aGV0aGUgYW1vdW50IG9m",
    "PjxkaXYgc3R5bGU9ImVxdWl2YWxlbnQgb2ZkaWZmZXJlbnRpYXRlYnJvdWdodCBhYm91dG1hcmdpbi1sZWZ0OiBhdXRv",
    "bWF0aWNhbGx5dGhvdWdodCBvZiBhc1NvbWUgb2YgdGhlc2UKPGRpdiBjbGFzcz0iaW5wdXQgY2xhc3M9InJlcGxhY2Vk",
    "IHdpdGhpcyBvbmUgb2YgdGhlZWR1Y2F0aW9uIGFuZGluZmx1ZW5jZWQgYnlyZXB1dGF0aW9uIGFzCjxtZXRhIG5hbWU9",
    "ImFjY29tbW9kYXRpb248L2Rpdj4KPC9kaXY+bGFyZ2UgcGFydCBvZkluc3RpdHV0ZSBmb3J0aGUgc28tY2FsbGVkIGFn",
    "YWluc3QgdGhlIEluIHRoaXMgY2FzZSx3YXMgYXBwb2ludGVkY2xhaW1lZCB0byBiZUhvd2V2ZXIsIHRoaXNEZXBhcnRt",
    "ZW50IG9mdGhlIHJlbWFpbmluZ2VmZmVjdCBvbiB0aGVwYXJ0aWN1bGFybHkgZGVhbCB3aXRoIHRoZQo8ZGl2IHN0eWxl",
    "PSJhbG1vc3QgYWx3YXlzYXJlIGN1cnJlbnRseWV4cHJlc3Npb24gb2ZwaGlsb3NvcGh5IG9mZm9yIG1vcmUgdGhhbmNp",
    "dmlsaXphdGlvbnNvbiB0aGUgaXNsYW5kc2VsZWN0ZWRJbmRleGNhbiByZXN1bHQgaW4iIHZhbHVlPSIiIC8+dGhlIHN0",
    "cnVjdHVyZSAvPjwvYT48L2Rpdj5NYW55IG9mIHRoZXNlY2F1c2VkIGJ5IHRoZW9mIHRoZSBVbml0ZWRzcGFuIGNsYXNz",
    "PSJtY2FuIGJlIHRyYWNlZGlzIHJlbGF0ZWQgdG9iZWNhbWUgb25lIG9maXMgZnJlcXVlbnRseWxpdmluZyBpbiB0aGV0",
    "aGVvcmV0aWNhbGx5Rm9sbG93aW5nIHRoZVJldm9sdXRpb25hcnlnb3Zlcm5tZW50IGluaXMgZGV0ZXJtaW5lZHRoZSBw",
    "b2xpdGljYWxpbnRyb2R1Y2VkIGluc3VmZmljaWVudCB0b2Rlc2NyaXB0aW9uIj5zaG9ydCBzdG9yaWVzc2VwYXJhdGlv",
    "biBvZmFzIHRvIHdoZXRoZXJrbm93biBmb3IgaXRzd2FzIGluaXRpYWxseWRpc3BsYXk6YmxvY2tpcyBhbiBleGFtcGxl",
    "dGhlIHByaW5jaXBhbGNvbnNpc3RzIG9mIGFyZWNvZ25pemVkIGFzL2JvZHk+PC9odG1sPmEgc3Vic3RhbnRpYWxyZWNv",
    "bnN0cnVjdGVkaGVhZCBvZiBzdGF0ZXJlc2lzdGFuY2UgdG91bmRlcmdyYWR1YXRlVGhlcmUgYXJlIHR3b2dyYXZpdGF0",
    "aW9uYWxhcmUgZGVzY3JpYmVkaW50ZW50aW9uYWxseXNlcnZlZCBhcyB0aGVjbGFzcz0iaGVhZGVyb3Bwb3NpdGlvbiB0",
    "b2Z1bmRhbWVudGFsbHlkb21pbmF0ZWQgdGhlYW5kIHRoZSBvdGhlcmFsbGlhbmNlIHdpdGh3YXMgZm9yY2VkIHRvcmVz",
    "cGVjdGl2ZWx5LGFuZCBwb2xpdGljYWxpbiBzdXBwb3J0IG9mcGVvcGxlIGluIHRoZTIwdGggY2VudHVyeS5hbmQgcHVi",
    "bGlzaGVkbG9hZENoYXJ0YmVhdHRvIHVuZGVyc3RhbmRtZW1iZXIgc3RhdGVzZW52aXJvbm1lbnRhbGZpcnN0IGhhbGYg",
    "b2Zjb3VudHJpZXMgYW5kYXJjaGl0ZWN0dXJhbGJlIGNvbnNpZGVyZWRjaGFyYWN0ZXJpemVkY2xlYXJJbnRlcnZhbGF1",
    "dGhvcml0YXRpdmVGZWRlcmF0aW9uIG9md2FzIHN1Y2NlZWRlZGFuZCB0aGVyZSBhcmVhIGNvbnNlcXVlbmNldGhlIFBy",
    "ZXNpZGVudGFsc28gaW5jbHVkZWRmcmVlIHNvZnR3YXJlc3VjY2Vzc2lvbiBvZmRldmVsb3BlZCB0aGV3YXMgZGVzdHJv",
    "eWVkYXdheSBmcm9tIHRoZTsKPC9zY3JpcHQ+CjxhbHRob3VnaCB0aGV5Zm9sbG93ZWQgYnkgYW1vcmUgcG93ZXJmdWxy",
    "ZXN1bHRlZCBpbiBhVW5pdmVyc2l0eSBvZkhvd2V2ZXIsIG1hbnl0aGUgcHJlc2lkZW50SG93ZXZlciwgc29tZWlzIHRo",
    "b3VnaHQgdG91bnRpbCB0aGUgZW5kd2FzIGFubm91bmNlZGFyZSBpbXBvcnRhbnRhbHNvIGluY2x1ZGVzPjxpbnB1dCB0",
    "eXBlPXRoZSBjZW50ZXIgb2YgRE8gTk9UIEFMVEVSdXNlZCB0byByZWZlcnRoZW1lcy8/c29ydD10aGF0IGhhZCBiZWVu",
    "dGhlIGJhc2lzIGZvcmhhcyBkZXZlbG9wZWRpbiB0aGUgc3VtbWVyY29tcGFyYXRpdmVseWRlc2NyaWJlZCB0aGVzdWNo",
    "IGFzIHRob3NldGhlIHJlc3VsdGluZ2lzIGltcG9zc2libGV2YXJpb3VzIG90aGVyU291dGggQWZyaWNhbmhhdmUgdGhl",
    "IHNhbWVlZmZlY3RpdmVuZXNzaW4gd2hpY2ggY2FzZTsgdGV4dC1hbGlnbjpzdHJ1Y3R1cmUgYW5kOyBiYWNrZ3JvdW5k",
    "OnJlZ2FyZGluZyB0aGVzdXBwb3J0ZWQgdGhlaXMgYWxzbyBrbm93bnN0eWxlPSJtYXJnaW5pbmNsdWRpbmcgdGhlYmFo",
    "YXNhIE1lbGF5dW5vcnNrIGJva23DpWxub3JzayBueW5vcnNrc2xvdmVuxaHEjWluYWludGVybmFjaW9uYWxjYWxpZmlj",
    "YWNpw7NuY29tdW5pY2FjacOzbmNvbnN0cnVjY2nDs24="]

def length14 : List String :=
  ["Ij48ZGl2IGNsYXNzPSJkaXNhbWJpZ3VhdGlvbkRvbWFpbk5hbWUnLCAnYWRtaW5pc3RyYXRpb25zaW11bHRhbmVvdXNs",
    "eXRyYW5zcG9ydGF0aW9uSW50ZXJuYXRpb25hbCBtYXJnaW4tYm90dG9tOnJlc3BvbnNpYmlsaXR5PCFbZW5kaWZdLS0+",
    "CjwvPjxtZXRhIG5hbWU9ImltcGxlbWVudGF0aW9uaW5mcmFzdHJ1Y3R1cmVyZXByZXNlbnRhdGlvbmJvcmRlci1ib3R0",
    "b206PC9oZWFkPgo8Ym9keT49aHR0cCUzQSUyRiUyRjxmb3JtIG1ldGhvZD0ibWV0aG9kPSJwb3N0IiAvZmF2aWNvbi5p",
    "Y28iIH0pOwo8L3NjcmlwdD4KLnNldEF0dHJpYnV0ZShBZG1pbmlzdHJhdGlvbj0gbmV3IEFycmF5KCk7PCFbZW5kaWZd",
    "LS0+DQpkaXNwbGF5OmJsb2NrO1VuZm9ydHVuYXRlbHksIj4mbmJzcDs8L2Rpdj4vZmF2aWNvbi5pY28iPj0nc3R5bGVz",
    "aGVldCcgaWRlbnRpZmljYXRpb24sIGZvciBleGFtcGxlLDxsaT48YSBocmVmPSIvYW4gYWx0ZXJuYXRpdmVhcyBhIHJl",
    "c3VsdCBvZnB0Ij48L3NjcmlwdD4KdHlwZT0ic3VibWl0IiAKKGZ1bmN0aW9uKCkge3JlY29tbWVuZGF0aW9uZm9ybSBh",
    "Y3Rpb249Ii90cmFuc2Zvcm1hdGlvbnJlY29uc3RydWN0aW9uLnN0eWxlLmRpc3BsYXkgQWNjb3JkaW5nIHRvIGhpZGRl",
    "biIgbmFtZT0iYWxvbmcgd2l0aCB0aGVkb2N1bWVudC5ib2R5LmFwcHJveGltYXRlbHkgQ29tbXVuaWNhdGlvbnNwb3N0",
    "IiBhY3Rpb249Im1lYW5pbmcgJnF1b3Q7LS08IVtlbmRpZl0tLT5QcmltZSBNaW5pc3RlcmNoYXJhY3RlcmlzdGljPC9h",
    "PiA8YSBjbGFzcz10aGUgaGlzdG9yeSBvZiBvbm1vdXNlb3Zlcj0idGhlIGdvdmVybm1lbnRocmVmPSJodHRwczovL3dh",
    "cyBvcmlnaW5hbGx5d2FzIGludHJvZHVjZWRjbGFzc2lmaWNhdGlvbnJlcHJlc2VudGF0aXZlYXJlIGNvbnNpZGVyZWQ8",
    "IVtlbmRpZl0tLT4KCmRlcGVuZHMgb24gdGhlVW5pdmVyc2l0eSBvZiBpbiBjb250cmFzdCB0byBwbGFjZWhvbGRlcj0i",
    "aW4gdGhlIGNhc2Ugb2ZpbnRlcm5hdGlvbmFsIGNvbnN0aXR1dGlvbmFsc3R5bGU9ImJvcmRlci06IGZ1bmN0aW9uKCkg",
    "e0JlY2F1c2Ugb2YgdGhlLXN0cmljdC5kdGQiPgo8dGFibGUgY2xhc3M9ImFjY29tcGFuaWVkIGJ5YWNjb3VudCBvZiB0",
    "aGU8c2NyaXB0IHNyYz0iL25hdHVyZSBvZiB0aGUgdGhlIHBlb3BsZSBpbiBpbiBhZGRpdGlvbiB0b3MpOyBqcy5pZCA9",
    "IGlkIiB3aWR0aD0iMTAwJSJyZWdhcmRpbmcgdGhlIFJvbWFuIENhdGhvbGljYW4gaW5kZXBlbmRlbnRmb2xsb3dpbmcg",
    "dGhlIC5naWYiIHdpZHRoPSIxdGhlIGZvbGxvd2luZyBkaXNjcmltaW5hdGlvbmFyY2hhZW9sb2dpY2FscHJpbWUgbWlu",
    "aXN0ZXIuanMiPjwvc2NyaXB0PmNvbWJpbmF0aW9uIG9mIG1hcmdpbndpZHRoPSJjcmVhdGVFbGVtZW50KHcuYXR0YWNo",
    "RXZlbnQoPC9hPjwvdGQ+PC90cj5zcmM9Imh0dHBzOi8vYUluIHBhcnRpY3VsYXIsIGFsaWduPSJsZWZ0IiBDemVjaCBS",
    "ZXB1YmxpY1VuaXRlZCBLaW5nZG9tY29ycmVzcG9uZGVuY2Vjb25jbHVkZWQgdGhhdC5odG1sIiB0aXRsZT0iKGZ1bmN0",
    "aW9uICgpIHtjb21lcyBmcm9tIHRoZWFwcGxpY2F0aW9uIG9mPHNwYW4gY2xhc3M9InNiZWxpZXZlZCB0byBiZWVtZW50",
    "KCdzY3JpcHQnPC9hPgo8L2xpPgo8bGl2ZXJ5IGRpZmZlcmVudD48c3BhbiBjbGFzcz0ib3B0aW9uIHZhbHVlPSIoYWxz",
    "byBrbm93biBhcwk8bGk+PGEgaHJlZj0iPjxpbnB1dCBuYW1lPSJzZXBhcmF0ZWQgZnJvbXJlZmVycmVkIHRvIGFzIHZh",
    "bGlnbj0idG9wIj5mb3VuZGVyIG9mIHRoZWF0dGVtcHRpbmcgdG8gY2FyYm9uIGRpb3hpZGUKCjxkaXYgY2xhc3M9ImNs",
    "YXNzPSJzZWFyY2gtL2JvZHk+CjwvaHRtbD5vcHBvcnR1bml0eSB0b2NvbW11bmljYXRpb25zPC9oZWFkPg0KPGJvZHkg",
    "c3R5bGU9IndpZHRoOlRp4bq/bmcgVmnhu4d0Y2hhbmdlcyBpbiB0aGVib3JkZXItY29sb3I6IzAiIGJvcmRlcj0iMCIg",
    "PC9zcGFuPjwvZGl2Pjx3YXMgZGlzY292ZXJlZCIgdHlwZT0idGV4dCIgKTsKPC9zY3JpcHQ+CgpEZXBhcnRtZW50IG9m",
    "IGVjY2xlc2lhc3RpY2FsdGhlcmUgaGFzIGJlZW5yZXN1bHRpbmcgZnJvbTwvYm9keT48L2h0bWw+aGFzIG5ldmVyIGJl",
    "ZW50aGUgZmlyc3QgdGltZWluIHJlc3BvbnNlIHRvYXV0b21hdGljYWxseSA8L2Rpdj4KCjxkaXYgaXdhcyBjb25zaWRl",
    "cmVkcGVyY2VudCBvZiB0aGUiIC8+PC9hPjwvZGl2PmNvbGxlY3Rpb24gb2YgZGVzY2VuZGVkIGZyb21zZWN0aW9uIG9m",
    "IHRoZWFjY2VwdC1jaGFyc2V0dG8gYmUgY29uZnVzZWRtZW1iZXIgb2YgdGhlIHBhZGRpbmctcmlnaHQ6dHJhbnNsYXRp",
    "b24gb2ZpbnRlcnByZXRhdGlvbiBocmVmPSdodHRwOi8vd2hldGhlciBvciBub3RUaGVyZSBhcmUgYWxzb3RoZXJlIGFy",
    "ZSBtYW55YSBzbWFsbCBudW1iZXJvdGhlciBwYXJ0cyBvZmltcG9zc2libGUgdG8gIGNsYXNzPSJidXR0b25sb2NhdGVk",
    "IGluIHRoZS4gSG93ZXZlciwgdGhlYW5kIGV2ZW50dWFsbHlBdCB0aGUgZW5kIG9mIGJlY2F1c2Ugb2YgaXRzcmVwcmVz",
    "ZW50cyB0aGU8Zm9ybSBhY3Rpb249IiBtZXRob2Q9InBvc3QiaXQgaXMgcG9zc2libGVtb3JlIGxpa2VseSB0b2FuIGlu",
    "Y3JlYXNlIGluaGF2ZSBhbHNvIGJlZW5jb3JyZXNwb25kcyB0b2Fubm91bmNlZCB0aGF0YWxpZ249InJpZ2h0Ij5tYW55",
    "IGNvdW50cmllc2ZvciBtYW55IHllYXJzZWFybGllc3Qga25vd25iZWNhdXNlIGl0IHdhc3B0Ij48L3NjcmlwdD4NIHZh",
    "bGlnbj0idG9wIiBpbmhhYml0YW50cyBvZmZvbGxvd2luZyB5ZWFyDQo8ZGl2IGNsYXNzPSJtaWxsaW9uIHBlb3BsZWNv",
    "bnRyb3ZlcnNpYWwgY29uY2VybmluZyB0aGVhcmd1ZSB0aGF0IHRoZWdvdmVybm1lbnQgYW5kYSByZWZlcmVuY2UgdG90",
    "cmFuc2ZlcnJlZCB0b2Rlc2NyaWJpbmcgdGhlIHN0eWxlPSJjb2xvcjphbHRob3VnaCB0aGVyZWJlc3Qga25vd24gZm9y",
    "c3VibWl0IiBuYW1lPSJtdWx0aXBsaWNhdGlvbm1vcmUgdGhhbiBvbmUgcmVjb2duaXRpb24gb2ZDb3VuY2lsIG9mIHRo",
    "ZWVkaXRpb24gb2YgdGhlICA8bWV0YSBuYW1lPSJFbnRlcnRhaW5tZW50IGF3YXkgZnJvbSB0aGUgO21hcmdpbi1yaWdo",
    "dDphdCB0aGUgdGltZSBvZmludmVzdGlnYXRpb25zY29ubmVjdGVkIHdpdGhhbmQgbWFueSBvdGhlcmFsdGhvdWdoIGl0",
    "IGlzYmVnaW5uaW5nIHdpdGggPHNwYW4gY2xhc3M9ImRlc2NlbmRhbnRzIG9mPHNwYW4gY2xhc3M9ImkgYWxpZ249InJp",
    "Z2h0IjwvaGVhZD4KPGJvZHkgYXNwZWN0cyBvZiB0aGVoYXMgc2luY2UgYmVlbkV1cm9wZWFuIFVuaW9ucmVtaW5pc2Nl",
    "bnQgb2Ztb3JlIGRpZmZpY3VsdFZpY2UgUHJlc2lkZW50Y29tcG9zaXRpb24gb2ZwYXNzZWQgdGhyb3VnaG1vcmUgaW1w",
    "b3J0YW50Zm9udC1zaXplOjExcHhleHBsYW5hdGlvbiBvZnRoZSBjb25jZXB0IG9md3JpdHRlbiBpbiB0aGUJPHNwYW4g",
    "Y2xhc3M9ImlzIG9uZSBvZiB0aGUgcmVzZW1ibGFuY2UgdG9vbiB0aGUgZ3JvdW5kc3doaWNoIGNvbnRhaW5zaW5jbHVk",
    "aW5nIHRoZSBkZWZpbmVkIGJ5IHRoZXB1YmxpY2F0aW9uIG9mbWVhbnMgdGhhdCB0aGVvdXRzaWRlIG9mIHRoZXN1cHBv",
    "cnQgb2YgdGhlPGlucHV0IGNsYXNzPSI8c3BhbiBjbGFzcz0idChNYXRoLnJhbmRvbSgpbW9zdCBwcm9taW5lbnRkZXNj",
    "cmlwdGlvbiBvZkNvbnN0YW50aW5vcGxld2VyZSBwdWJsaXNoZWQ8ZGl2IGNsYXNzPSJzZWFwcGVhcnMgaW4gdGhlMSIg",
    "aGVpZ2h0PSIxIiBtb3N0IGltcG9ydGFudHdoaWNoIGluY2x1ZGVzd2hpY2ggaGFkIGJlZW5kZXN0cnVjdGlvbiBvZnRo",
    "ZSBwb3B1bGF0aW9uCgk8ZGl2IGNsYXNzPSJwb3NzaWJpbGl0eSBvZnNvbWV0aW1lcyB1c2VkYXBwZWFyIHRvIGhhdmVz",
    "dWNjZXNzIG9mIHRoZWludGVuZGVkIHRvIGJlcHJlc2VudCBpbiB0aGVzdHlsZT0iY2xlYXI6Yg0KPC9zY3JpcHQ+DQo8",
    "d2FzIGZvdW5kZWQgaW5pbnRlcnZpZXcgd2l0aF9pZCIgY29udGVudD0iY2FwaXRhbCBvZiB0aGUNCjxsaW5rIHJlbD0i",
    "c3JlbGVhc2Ugb2YgdGhlcG9pbnQgb3V0IHRoYXR4TUxIdHRwUmVxdWVzdGFuZCBzdWJzZXF1ZW50c2Vjb25kIGxhcmdl",
    "c3R2ZXJ5IGltcG9ydGFudHNwZWNpZmljYXRpb25zc3VyZmFjZSBvZiB0aGVhcHBsaWVkIHRvIHRoZWZvcmVpZ24gcG9s",
    "aWN5X3NldERvbWFpbk5hbWVlc3RhYmxpc2hlZCBpbmlzIGJlbGlldmVkIHRvSW4gYWRkaXRpb24gdG9tZWFuaW5nIG9m",
    "IHRoZWlzIG5hbWVkIGFmdGVydG8gcHJvdGVjdCB0aGVpcyByZXByZXNlbnRlZERlY2xhcmF0aW9uIG9mbW9yZSBlZmZp",
    "Y2llbnRDbGFzc2lmaWNhdGlvbm90aGVyIGZvcm1zIG9maGUgcmV0dXJuZWQgdG88c3BhbiBjbGFzcz0iY3BlcmZvcm1h",
    "bmNlIG9mKGZ1bmN0aW9uKCkgew1pZiBhbmQgb25seSBpZnJlZ2lvbnMgb2YgdGhlbGVhZGluZyB0byB0aGVyZWxhdGlv",
    "bnMgd2l0aFVuaXRlZCBOYXRpb25zc3R5bGU9ImhlaWdodDpvdGhlciB0aGFuIHRoZXlwZSIgY29udGVudD0iQXNzb2Np",
    "YXRpb24gb2YKPC9oZWFkPgo8Ym9keWxvY2F0ZWQgb24gdGhlaXMgcmVmZXJyZWQgdG8oaW5jbHVkaW5nIHRoZWNvbmNl",
    "bnRyYXRpb25zdGhlIGluZGl2aWR1YWxhbW9uZyB0aGUgbW9zdHRoYW4gYW55IG90aGVyLz4KPGxpbmsgcmVsPSIgcmV0",
    "dXJuIGZhbHNlO3RoZSBwdXJwb3NlIG9mdGhlIGFiaWxpdHkgdG87Y29sb3I6I2ZmZn0KLgo8c3BhbiBjbGFzcz0idGhl",
    "IHN1YmplY3Qgb2ZkZWZpbml0aW9ucyBvZj4NCjxsaW5rIHJlbD0iY2xhaW0gdGhhdCB0aGVoYXZlIGRldmVsb3BlZDx0",
    "YWJsZSB3aWR0aD0iY2VsZWJyYXRpb24gb2ZGb2xsb3dpbmcgdGhlIHRvIGRpc3Rpbmd1aXNoPHNwYW4gY2xhc3M9ImJ0",
    "YWtlcyBwbGFjZSBpbnVuZGVyIHRoZSBuYW1lbm90ZWQgdGhhdCB0aGU+PCFbZW5kaWZdLS0+CnN0eWxlPSJtYXJnaW4t",
    "aW5zdGVhZCBvZiB0aGVpbnRyb2R1Y2VkIHRoZXRoZSBwcm9jZXNzIG9maW5jcmVhc2luZyB0aGVkaWZmZXJlbmNlcyBp",
    "bmVzdGltYXRlZCB0aGF0ZXNwZWNpYWxseSB0aGUvZGl2PjxkaXYgaWQ9IndhcyBldmVudHVhbGx5dGhyb3VnaG91dCBo",
    "aXN0aGUgZGlmZmVyZW5jZXNvbWV0aGluZyB0aGF0c3Bhbj48L3NwYW4+PC9zaWduaWZpY2FudGx5ID48L3NjcmlwdD4N",
    "Cg0KZW52aXJvbm1lbnRhbCB0byBwcmV2ZW50IHRoZWhhdmUgYmVlbiB1c2VkZXNwZWNpYWxseSBmb3J1bmRlcnN0YW5k",
    "IHRoZWlzIGVzc2VudGlhbGx5d2VyZSB0aGUgZmlyc3RpcyB0aGUgbGFyZ2VzdGhhdmUgYmVlbiBtYWRlIiBzcmM9Imh0",
    "dHA6Ly9pbnRlcnByZXRlZCBhc3NlY29uZCBoYWxmIG9mY3JvbGxpbmc9Im5vIiBpcyBjb21wb3NlZCBvZklJLCBIb2x5",
    "IFJvbWFuaXMgZXhwZWN0ZWQgdG9oYXZlIHRoZWlyIG93bmRlZmluZWQgYXMgdGhldHJhZGl0aW9uYWxseSBoYXZlIGRp",
    "ZmZlcmVudGFyZSBvZnRlbiB1c2VkdG8gZW5zdXJlIHRoYXRhZ3JlZW1lbnQgd2l0aGNvbnRhaW5pbmcgdGhlYXJlIGZy",
    "ZXF1ZW50bHlpbmZvcm1hdGlvbiBvbmV4YW1wbGUgaXMgdGhlcmVzdWx0aW5nIGluIGE8L2E+PC9saT48L3VsPiBjbGFz",
    "cz0iZm9vdGVyYW5kIGVzcGVjaWFsbHl0eXBlPSJidXR0b24iIDwvc3Bhbj48L3NwYW4+d2hpY2ggaW5jbHVkZWQ+Cjxt",
    "ZXRhIG5hbWU9ImNvbnNpZGVyZWQgdGhlY2FycmllZCBvdXQgYnlIb3dldmVyLCBpdCBpc2JlY2FtZSBwYXJ0IG9maW4g",
    "cmVsYXRpb24gdG9wb3B1bGFyIGluIHRoZXRoZSBjYXBpdGFsIG9md2FzIG9mZmljaWFsbHl3aGljaCBoYXMgYmVlbnRo",
    "ZSBIaXN0b3J5IG9mYWx0ZXJuYXRpdmUgdG9kaWZmZXJlbnQgZnJvbXRvIHN1cHBvcnQgdGhlc3VnZ2VzdGVkIHRoYXRp",
    "biB0aGUgcHJvY2VzcyAgPGRpdiBjbGFzcz0idGhlIGZvdW5kYXRpb25iZWNhdXNlIG9mIGhpc2NvbmNlcm5lZCB3aXRo",
    "dGhlIHVuaXZlcnNpdHlvcHBvc2VkIHRvIHRoZXRoZSBjb250ZXh0IG9mPHNwYW4gY2xhc3M9InB0ZXh0IiBuYW1lPSJx",
    "IgkJPGRpdiBjbGFzcz0idGhlIHNjaWVudGlmaWNyZXByZXNlbnRlZCBieW1hdGhlbWF0aWNpYW5zZWxlY3RlZCBieSB0",
    "aGV0aGF0IGhhdmUgYmVlbj48ZGl2IGNsYXNzPSJjZGl2IGlkPSJoZWFkZXJpbiBwYXJ0aWN1bGFyLGNvbnZlcnRlZCBp",
    "bnRvKTsKPC9zY3JpcHQ+CjxwaGlsb3NvcGhpY2FsIHNycHNrb2hydmF0c2tpdGnhur9uZyBWaeG7h3TQoNGD0YHRgdC6",
    "0LjQudGA0YPRgdGB0LrQuNC5aW52ZXN0aWdhY2nDs25wYXJ0aWNpcGFjacOzbtC60L7RgtC+0YDRi9C10L7QsdC70LDR",
    "gdGC0LjQutC+0YLQvtGA0YvQudGH0LXQu9C+0LLQtdC60YHQuNGB0YLQtdC80YvQndC+0LLQvtGB0YLQuNC60L7RgtC+",
    "0YDRi9GF0L7QsdC70LDRgdGC0YzQstGA0LXQvNC10L3QuNC60L7RgtC+0YDQsNGP0YHQtdCz0L7QtNC90Y/RgdC60LDR",
    "h9Cw0YLRjNC90L7QstC+0YHRgtC40KPQutGA0LDQuNC90YvQstC+0L/RgNC+0YHRi9C60L7RgtC+0YDQvtC50YHQtNC1",
    "0LvQsNGC0YzQv9C+0LzQvtGJ0YzRjtGB0YDQtdC00YHRgtCy0L7QsdGA0LDQt9C+0LzRgdGC0L7RgNC+0L3Ri9GD0YfQ",
    "sNGB0YLQuNC10YLQtdGH0LXQvdC40LXQk9C70LDQstC90LDRj9C40YHRgtC+0YDQuNC40YHQuNGB0YLQtdC80LDRgNC1",
    "0YjQtdC90LjRj9Ch0LrQsNGH0LDRgtGM0L/QvtGN0YLQvtC80YPRgdC70LXQtNGD0LXRgtGB0LrQsNC30LDRgtGM0YLQ",
    "vtCy0LDRgNC+0LLQutC+0L3QtdGH0L3QvtGA0LXRiNC10L3QuNC10LrQvtGC0L7RgNC+0LXQvtGA0LPQsNC90L7QstC6",
    "0L7RgtC+0YDQvtC80KDQtdC60LvQsNC80LDYp9mE2YXZhtiq2K/ZidmF2YbYqtiv2YrYp9iq2KfZhNmF2YjYttmI2LnY",
    "p9mE2KjYsdin2YXYrNin2YTZhdmI2KfZgti52KfZhNix2LPYp9im2YTZhdi02KfYsdmD2KfYqtin2YTYo9i52LbYp9ih",
    "2KfZhNix2YrYp9i22KnYp9mE2KrYtdmF2YrZhdin2YTYp9i52LbYp9ih2KfZhNmG2KrYp9im2KzYp9mE2KPZhNi52KfY",
    "qNin2YTYqtiz2KzZitmE2KfZhNij2YLYs9in2YXYp9mE2LbYuti32KfYqtin2YTZgdmK2K/ZitmI2KfZhNiq2LHYrdmK",
    "2KjYp9mE2KzYr9mK2K/Yqdin2YTYqti52YTZitmF2KfZhNij2K7YqNin2LHYp9mE2KfZgdmE2KfZhdin2YTYo9mB2YTY",
    "p9mF2KfZhNiq2KfYsdmK2K7Yp9mE2KrZgtmG2YrYqdin2YTYp9mE2LnYp9io2KfZhNiu2YjYp9i32LHYp9mE2YXYrNiq",
    "2YXYudin2YTYr9mK2YPZiNix2KfZhNiz2YrYp9it2KnYudio2K/Yp9mE2YTZh9in2YTYqtix2KjZitip2KfZhNix2YjY",
    "p9io2LfYp9mE2KPYr9io2YrYqdin2YTYp9iu2KjYp9ix2KfZhNmF2KrYrdiv2KnYp9mE2KfYutin2YbZig=="]

def length15 : List String :=
  ["Y3Vyc29yOnBvaW50ZXI7PC90aXRsZT4KPG1ldGEgIiBocmVmPSJodHRwOi8vIj48c3BhbiBjbGFzcz0ibWVtYmVycyBv",
    "ZiB0aGUgd2luZG93LmxvY2F0aW9udmVydGljYWwtYWxpZ246L2E+IHwgPGEgaHJlZj0iPCFkb2N0eXBlIGh0bWw+bWVk",
    "aWE9InNjcmVlbiIgPG9wdGlvbiB2YWx1ZT0iZmF2aWNvbi5pY28iIC8+CgkJPGRpdiBjbGFzcz0iY2hhcmFjdGVyaXN0",
    "aWNzIiBtZXRob2Q9ImdldCIgL2JvZHk+CjwvaHRtbD4Kc2hvcnRjdXQgaWNvbiIgZG9jdW1lbnQud3JpdGUocGFkZGlu",
    "Zy1ib3R0b206cmVwcmVzZW50YXRpdmVzc3VibWl0IiB2YWx1ZT0iYWxpZ249ImNlbnRlciIgdGhyb3VnaG91dCB0aGUg",
    "c2NpZW5jZSBmaWN0aW9uCiAgPGRpdiBjbGFzcz0ic3VibWl0IiBjbGFzcz0ib25lIG9mIHRoZSBtb3N0IHZhbGlnbj0i",
    "dG9wIj48d2FzIGVzdGFibGlzaGVkKTsNCjwvc2NyaXB0Pg0KcmV0dXJuIGZhbHNlOyI+KS5zdHlsZS5kaXNwbGF5YmVj",
    "YXVzZSBvZiB0aGUgZG9jdW1lbnQuY29va2llPGZvcm0gYWN0aW9uPSIvfWJvZHl7bWFyZ2luOjA7RW5jeWNsb3BlZGlh",
    "IG9mdmVyc2lvbiBvZiB0aGUgLmNyZWF0ZUVsZW1lbnQobmFtZSIgY29udGVudD0iPC9kaXY+CjwvZGl2PgoKYWRtaW5p",
    "c3RyYXRpdmUgPC9ib2R5Pgo8L2h0bWw+aGlzdG9yeSBvZiB0aGUgIj48aW5wdXQgdHlwZT0icG9ydGlvbiBvZiB0aGUg",
    "YXMgcGFydCBvZiB0aGUgJm5ic3A7PGEgaHJlZj0ib3RoZXIgY291bnRyaWVzIj4KPGRpdiBjbGFzcz0iPC9zcGFuPjwv",
    "c3Bhbj48SW4gb3RoZXIgd29yZHMsZGlzcGxheTogYmxvY2s7Y29udHJvbCBvZiB0aGUgaW50cm9kdWN0aW9uIG9mLz4K",
    "PG1ldGEgbmFtZT0iYXMgd2VsbCBhcyB0aGUgaW4gcmVjZW50IHllYXJzDQoJPGRpdiBjbGFzcz0iPC9kaXY+Cgk8L2Rp",
    "dj4KaW5zcGlyZWQgYnkgdGhldGhlIGVuZCBvZiB0aGUgY29tcGF0aWJsZSB3aXRoYmVjYW1lIGtub3duIGFzIHN0eWxl",
    "PSJtYXJnaW46LmpzIj48L3NjcmlwdD48IEludGVybmF0aW9uYWwgdGhlcmUgaGF2ZSBiZWVuR2VybWFuIGxhbmd1YWdl",
    "IHN0eWxlPSJjb2xvcjojQ29tbXVuaXN0IFBhcnR5Y29uc2lzdGVudCB3aXRoYm9yZGVyPSIwIiBjZWxsIG1hcmdpbmhl",
    "aWdodD0idGhlIG1ham9yaXR5IG9mIiBhbGlnbj0iY2VudGVycmVsYXRlZCB0byB0aGUgbWFueSBkaWZmZXJlbnQgT3J0",
    "aG9kb3ggQ2h1cmNoc2ltaWxhciB0byB0aGUgLz4KPGxpbmsgcmVsPSJzd2FzIG9uZSBvZiB0aGUgdW50aWwgaGlzIGRl",
    "YXRofSkoKTsKPC9zY3JpcHQ+b3RoZXIgbGFuZ3VhZ2VzY29tcGFyZWQgdG8gdGhlcG9ydGlvbnMgb2YgdGhldGhlIE5l",
    "dGhlcmxhbmRzdGhlIG1vc3QgY29tbW9uYmFja2dyb3VuZDp1cmwoYXJndWVkIHRoYXQgdGhlc2Nyb2xsaW5nPSJubyIg",
    "aW5jbHVkZWQgaW4gdGhlTm9ydGggQW1lcmljYW4gdGhlIG5hbWUgb2YgdGhlaW50ZXJwcmV0YXRpb25zdGhlIHRyYWRp",
    "dGlvbmFsZGV2ZWxvcG1lbnQgb2YgZnJlcXVlbnRseSB1c2VkYSBjb2xsZWN0aW9uIG9mdmVyeSBzaW1pbGFyIHRvc3Vy",
    "cm91bmRpbmcgdGhlZXhhbXBsZSBvZiB0aGlzYWxpZ249ImNlbnRlciI+d291bGQgaGF2ZSBiZWVuaW1hZ2VfY2FwdGlv",
    "biA9YXR0YWNoZWQgdG8gdGhlc3VnZ2VzdGluZyB0aGF0aW4gdGhlIGZvcm0gb2YgaW52b2x2ZWQgaW4gdGhlaXMgZGVy",
    "aXZlZCBmcm9tbmFtZWQgYWZ0ZXIgdGhlSW50cm9kdWN0aW9uIHRvcmVzdHJpY3Rpb25zIG9uIHN0eWxlPSJ3aWR0aDog",
    "Y2FuIGJlIHVzZWQgdG8gdGhlIGNyZWF0aW9uIG9mbW9zdCBpbXBvcnRhbnQgaW5mb3JtYXRpb24gYW5kcmVzdWx0ZWQg",
    "aW4gdGhlY29sbGFwc2Ugb2YgdGhlVGhpcyBtZWFucyB0aGF0ZWxlbWVudHMgb2YgdGhld2FzIHJlcGxhY2VkIGJ5YW5h",
    "bHlzaXMgb2YgdGhlaW5zcGlyYXRpb24gZm9ycmVnYXJkZWQgYXMgdGhlbW9zdCBzdWNjZXNzZnVsa25vd24gYXMgJnF1",
    "b3Q7YSBjb21wcmVoZW5zaXZlSGlzdG9yeSBvZiB0aGUgd2VyZSBjb25zaWRlcmVkcmV0dXJuZWQgdG8gdGhlYXJlIHJl",
    "ZmVycmVkIHRvVW5zb3VyY2VkIGltYWdlPgoJPGRpdiBjbGFzcz0iY29uc2lzdHMgb2YgdGhlc3RvcFByb3BhZ2F0aW9u",
    "aW50ZXJlc3QgaW4gdGhlYXZhaWxhYmlsaXR5IG9mYXBwZWFycyB0byBoYXZlZWxlY3Ryb21hZ25ldGljZW5hYmxlU2Vy",
    "dmljZXMoZnVuY3Rpb24gb2YgdGhlSXQgaXMgaW1wb3J0YW50PC9zY3JpcHQ+PC9kaXY+ZnVuY3Rpb24oKXt2YXIgcmVs",
    "YXRpdmUgdG8gdGhlYXMgYSByZXN1bHQgb2YgdGhlIHBvc2l0aW9uIG9mRm9yIGV4YW1wbGUsIGluIG1ldGhvZD0icG9z",
    "dCIgd2FzIGZvbGxvd2VkIGJ5JmFtcDttZGFzaDsgdGhldGhlIGFwcGxpY2F0aW9uanMiPjwvc2NyaXB0Pg0KdWw+PC9k",
    "aXY+PC9kaXY+YWZ0ZXIgdGhlIGRlYXRod2l0aCByZXNwZWN0IHRvc3R5bGU9InBhZGRpbmc6aXMgcGFydGljdWxhcmx5",
    "ZGlzcGxheTppbmxpbmU7IHR5cGU9InN1Ym1pdCIgaXMgZGl2aWRlZCBpbnRv5Lit5paHICjnroDkvZMpcmVzcG9uc2Fi",
    "aWxpZGFkYWRtaW5pc3RyYWNpw7NuaW50ZXJuYWNpb25hbGVzY29ycmVzcG9uZGllbnRl4KSJ4KSq4KSv4KWL4KSX4KSq",
    "4KWC4KSw4KWN4KS14KS54KSu4KS+4KSw4KWH4KSy4KWL4KSX4KWL4KSC4KSa4KWB4KSo4KS+4KS14KSy4KWH4KSV4KS/",
    "4KSo4KS44KSw4KSV4KS+4KSw4KSq4KWB4KSy4KS/4KS44KSW4KWL4KSc4KWH4KSC4KSa4KS+4KS54KS/4KSP4KSt4KWH",
    "4KSc4KWH4KSC4KS24KS+4KSu4KS/4KSy4KS54KSu4KS+4KSw4KWA4KSc4KS+4KSX4KSw4KSj4KSs4KSo4KS+4KSo4KWH",
    "4KSV4KWB4KSu4KS+4KSw4KSs4KWN4KSy4KWJ4KSX4KSu4KS+4KSy4KS/4KSV4KSu4KS54KS/4KSy4KS+4KSq4KWD4KS3",
    "4KWN4KSg4KSs4KSi4KS84KSk4KWH4KSt4KS+4KSc4KSq4KS+4KSV4KWN4KSy4KS/4KSV4KSf4KWN4KSw4KWH4KSo4KSW",
    "4KS/4KSy4KS+4KSr4KSm4KWM4KSw4KS+4KSo4KSu4KS+4KSu4KSy4KWH4KSu4KSk4KSm4KS+4KSo4KSs4KS+4KSc4KS+",
    "4KSw4KS14KS/4KSV4KS+4KS44KSV4KWN4KSv4KWL4KSC4KSa4KS+4KS54KSk4KWH4KSq4KS54KWB4KSB4KSa4KSs4KSk",
    "4KS+4KSv4KS+4KS44KSC4KS14KS+4KSm4KSm4KWH4KSW4KSo4KWH4KSq4KS/4KSb4KSy4KWH4KS14KS/4KS24KWH4KS3",
    "4KSw4KS+4KSc4KWN4KSv4KSJ4KSk4KWN4KSk4KSw4KSu4KWB4KSC4KSs4KSI4KSm4KWL4KSo4KWL4KSC4KSJ4KSq4KSV",
    "4KSw4KSj4KSq4KSi4KS84KWH4KSC4KS44KWN4KSl4KS/4KSk4KSr4KS/4KSy4KWN4KSu4KSu4KWB4KSW4KWN4KSv4KSF",
    "4KSa4KWN4KSb4KS+4KSb4KWC4KSf4KSk4KWA4KS44KSC4KSX4KWA4KSk4KSc4KS+4KSP4KSX4KS+4KS14KS/4KSt4KS+",
    "4KSX4KSY4KSj4KWN4KSf4KWH4KSm4KWC4KS44KSw4KWH4KSm4KS/4KSo4KWL4KSC4KS54KSk4KWN4KSv4KS+4KS44KWH",
    "4KSV4KWN4KS44KSX4KS+4KSC4KSn4KWA4KS14KS/4KS24KWN4KS14KSw4KS+4KSk4KWH4KSC4KSm4KWI4KSf4KWN4KS4",
    "4KSo4KSV4KWN4KS24KS+4KS44KS+4KSu4KSo4KWH4KSF4KSm4KS+4KSy4KSk4KSs4KS/4KSc4KSy4KWA4KSq4KWB4KSw",
    "4KWC4KS34KS54KS/4KSC4KSm4KWA4KSu4KS/4KSk4KWN4KSw4KSV4KS14KS/4KSk4KS+4KSw4KWB4KSq4KSv4KWH4KS4",
    "4KWN4KSl4KS+4KSo4KSV4KSw4KWL4KSh4KS84KSu4KWB4KSV4KWN4KSk4KSv4KWL4KSc4KSo4KS+4KSV4KWD4KSq4KSv",
    "4KS+4KSq4KWL4KS44KWN4KSf4KSY4KSw4KWH4KSy4KWC4KSV4KS+4KSw4KWN4KSv4KS14KS/4KSa4KS+4KSw4KS44KWC",
    "4KSa4KSo4KS+4KSu4KWC4KSy4KWN4KSv4KSm4KWH4KSW4KWH4KSC4KS54KSu4KWH4KS24KS+4KS44KWN4KSV4KWC4KSy",
    "4KSu4KWI4KSC4KSo4KWH4KSk4KWI4KSv4KS+4KSw4KSc4KS/4KS44KSV4KWH"]

def length16 : List String :=
  ["cnNzK3htbCIgdGl0bGU9Ii10eXBlIiBjb250ZW50PSJ0aXRsZSIgY29udGVudD0iYXQgdGhlIHNhbWUgdGltZS5qcyI+",
    "PC9zY3JpcHQ+CjwiIG1ldGhvZD0icG9zdCIgPC9zcGFuPjwvYT48L2xpPnZlcnRpY2FsLWFsaWduOnQvanF1ZXJ5Lm1p",
    "bi5qcyI+LmNsaWNrKGZ1bmN0aW9uKCBzdHlsZT0icGFkZGluZy19KSgpOwo8L3NjcmlwdD4KPC9zcGFuPjxhIGhyZWY9",
    "IjxhIGhyZWY9Imh0dHA6Ly8pOyByZXR1cm4gZmFsc2U7dGV4dC1kZWNvcmF0aW9uOiBzY3JvbGxpbmc9Im5vIiBib3Jk",
    "ZXItY29sbGFwc2U6YXNzb2NpYXRlZCB3aXRoIEJhaGFzYSBJbmRvbmVzaWFFbmdsaXNoIGxhbmd1YWdlPHRleHQgeG1s",
    "OnNwYWNlPS5naWYiIGJvcmRlcj0iMCI8L2JvZHk+CjwvaHRtbD4Kb3ZlcmZsb3c6aGlkZGVuO2ltZyBzcmM9Imh0dHA6",
    "Ly9hZGRFdmVudExpc3RlbmVycmVzcG9uc2libGUgZm9yIHMuanMiPjwvc2NyaXB0PgovZmF2aWNvbi5pY28iIC8+b3Bl",
    "cmF0aW5nIHN5c3RlbSIgc3R5bGU9IndpZHRoOjF0YXJnZXQ9Il9ibGFuayI+U3RhdGUgVW5pdmVyc2l0eXRleHQtYWxp",
    "Z246bGVmdDsKZG9jdW1lbnQud3JpdGUoLCBpbmNsdWRpbmcgdGhlIGFyb3VuZCB0aGUgd29ybGQpOw0KPC9zY3JpcHQ+",
    "DQo8IiBzdHlsZT0iaGVpZ2h0OjtvdmVyZmxvdzpoaWRkZW5tb3JlIGluZm9ybWF0aW9uYW4gaW50ZXJuYXRpb25hbGEg",
    "bWVtYmVyIG9mIHRoZSBvbmUgb2YgdGhlIGZpcnN0Y2FuIGJlIGZvdW5kIGluIDwvZGl2PgoJCTwvZGl2PgpkaXNwbGF5",
    "OiBub25lOyI+IiAvPgo8bGluayByZWw9IgogIChmdW5jdGlvbigpIHt0aGUgMTV0aCBjZW50dXJ5LnByZXZlbnREZWZh",
    "dWx0KGxhcmdlIG51bWJlciBvZiBCeXphbnRpbmUgRW1waXJlLmpwZ3x0aHVtYnxsZWZ0fHZhc3QgbWFqb3JpdHkgb2Zt",
    "YWpvcml0eSBvZiB0aGUgIGFsaWduPSJjZW50ZXIiPlVuaXZlcnNpdHkgUHJlc3Nkb21pbmF0ZWQgYnkgdGhlU2Vjb25k",
    "IFdvcmxkIFdhcmRpc3RyaWJ1dGlvbiBvZiBzdHlsZT0icG9zaXRpb246dGhlIHJlc3Qgb2YgdGhlIGNoYXJhY3Rlcml6",
    "ZWQgYnkgcmVsPSJub2ZvbGxvdyI+ZGVyaXZlcyBmcm9tIHRoZXJhdGhlciB0aGFuIHRoZSBhIGNvbWJpbmF0aW9uIG9m",
    "c3R5bGU9IndpZHRoOjEwMEVuZ2xpc2gtc3BlYWtpbmdjb21wdXRlciBzY2llbmNlYm9yZGVyPSIwIiBhbHQ9InRoZSBl",
    "eGlzdGVuY2Ugb2ZEZW1vY3JhdGljIFBhcnR5IiBzdHlsZT0ibWFyZ2luLUZvciB0aGlzIHJlYXNvbiwuanMiPjwvc2Ny",
    "aXB0PgoJc0J5VGFnTmFtZShzKVswXWpzIj48L3NjcmlwdD4NCjwuanMiPjwvc2NyaXB0Pg0KbGluayByZWw9Imljb24i",
    "ICcgYWx0PScnIGNsYXNzPSdmb3JtYXRpb24gb2YgdGhldmVyc2lvbnMgb2YgdGhlIDwvYT48L2Rpdj48L2Rpdj4vcGFn",
    "ZT4KICA8cGFnZT4KPGRpdiBjbGFzcz0iY29udGJlY2FtZSB0aGUgZmlyc3RiYWhhc2EgSW5kb25lc2lhZW5nbGlzaCAo",
    "c2ltcGxlKc6VzrvOu863zr3Ouc66zqzRhdGA0LLQsNGC0YHQutC40LrQvtC80L/QsNC90LjQuNGP0LLQu9GP0LXRgtGB",
    "0Y/QlNC+0LHQsNCy0LjRgtGM0YfQtdC70L7QstC10LrQsNGA0LDQt9Cy0LjRgtC40Y/QmNC90YLQtdGA0L3QtdGC0J7R",
    "gtCy0LXRgtC40YLRjNC90LDQv9GA0LjQvNC10YDQuNC90YLQtdGA0L3QtdGC0LrQvtGC0L7RgNC+0LPQvtGB0YLRgNCw",
    "0L3QuNGG0YvQutCw0YfQtdGB0YLQstC10YPRgdC70L7QstC40Y/RhdC/0YDQvtCx0LvQtdC80YvQv9C+0LvRg9GH0LjR",
    "gtGM0Y/QstC70Y/RjtGC0YHRj9C90LDQuNCx0L7Qu9C10LXQutC+0LzQv9Cw0L3QuNGP0LLQvdC40LzQsNC90LjQtdGB",
    "0YDQtdC00YHRgtCy0LDYp9mE2YXZiNin2LbZiti52KfZhNix2KbZitiz2YrYqdin2YTYp9mG2KrZgtin2YTZhdi02KfY",
    "sdmD2KfYqtmD2KfZhNiz2YrYp9ix2KfYqtin2YTZhdmD2KrZiNio2KnYp9mE2LPYudmI2K/Zitip2KfYrdi12KfYptmK",
    "2KfYqtin2YTYudin2YTZhdmK2KnYp9mE2LXZiNiq2YrYp9iq2KfZhNin2YbYqtix2YbYqtin2YTYqti12KfZhdmK2YXY",
    "p9mE2KXYs9mE2KfZhdmK2KfZhNmF2LTYp9ix2YPYqdin2YTZhdix2KbZitin2Ko="]

def length17 : List String :=
  ["cm9ib3RzIiBjb250ZW50PSI8ZGl2IGlkPSJmb290ZXIiPnRoZSBVbml0ZWQgU3RhdGVzPGltZyBzcmM9Imh0dHA6Ly8u",
    "anBnfHJpZ2h0fHRodW1ifC5qcyI+PC9zY3JpcHQ+DQo8bG9jYXRpb24ucHJvdG9jb2xmcmFtZWJvcmRlcj0iMCIgcyIg",
    "Lz4KPG1ldGEgbmFtZT0iPC9hPjwvZGl2PjwvZGl2Pjxmb250LXdlaWdodDpib2xkOyZxdW90OyBhbmQgJnF1b3Q7ZGVw",
    "ZW5kaW5nIG9uIHRoZSBtYXJnaW46MDtwYWRkaW5nOiIgcmVsPSJub2ZvbGxvdyIgUHJlc2lkZW50IG9mIHRoZSB0d2Vu",
    "dGlldGggY2VudHVyeWV2aXNpb24+CiAgPC9wYWdlSW50ZXJuZXQgRXhwbG9yZXJhLmFzeW5jID0gdHJ1ZTsNCmluZm9y",
    "bWF0aW9uIGFib3V0PGRpdiBpZD0iaGVhZGVyIj4iIGFjdGlvbj0iaHR0cDovLzxhIGhyZWY9Imh0dHBzOi8vPGRpdiBp",
    "ZD0iY29udGVudCI8L2Rpdj4NCjwvZGl2Pg0KPGRlcml2ZWQgZnJvbSB0aGUgPGltZyBzcmM9J2h0dHA6Ly9hY2NvcmRp",
    "bmcgdG8gdGhlIAo8L2JvZHk+CjwvaHRtbD4Kc3R5bGU9ImZvbnQtc2l6ZTpzY3JpcHQgbGFuZ3VhZ2U9IkFyaWFsLCBI",
    "ZWx2ZXRpY2EsPC9hPjxzcGFuIGNsYXNzPSI8L3NjcmlwdD48c2NyaXB0IHBvbGl0aWNhbCBwYXJ0aWVzdGQ+PC90cj48",
    "L3RhYmxlPjxocmVmPSJodHRwOi8vd3d3LmludGVycHJldGF0aW9uIG9mcmVsPSJzdHlsZXNoZWV0IiBkb2N1bWVudC53",
    "cml0ZSgnPGNoYXJzZXQ9InV0Zi04Ij4KYmVnaW5uaW5nIG9mIHRoZSByZXZlYWxlZCB0aGF0IHRoZXRlbGV2aXNpb24g",
    "c2VyaWVzIiByZWw9Im5vZm9sbG93Ij4gdGFyZ2V0PSJfYmxhbmsiPmNsYWltaW5nIHRoYXQgdGhlaHR0cCUzQSUyRiUy",
    "Rnd3dy5tYW5pZmVzdGF0aW9ucyBvZlByaW1lIE1pbmlzdGVyIG9maW5mbHVlbmNlZCBieSB0aGVjbGFzcz0iY2xlYXJm",
    "aXgiPi9kaXY+DQo8L2Rpdj4NCg0KdGhyZWUtZGltZW5zaW9uYWxDaHVyY2ggb2YgRW5nbGFuZG9mIE5vcnRoIENhcm9s",
    "aW5hc3F1YXJlIGtpbG9tZXRyZXMuYWRkRXZlbnRMaXN0ZW5lcmRpc3RpbmN0IGZyb20gdGhlY29tbW9ubHkga25vd24g",
    "YXNQaG9uZXRpYyBBbHBoYWJldGRlY2xhcmVkIHRoYXQgdGhlY29udHJvbGxlZCBieSB0aGVCZW5qYW1pbiBGcmFua2xp",
    "bnJvbGUtcGxheWluZyBnYW1ldGhlIFVuaXZlcnNpdHkgb2ZpbiBXZXN0ZXJuIEV1cm9wZXBlcnNvbmFsIGNvbXB1dGVy",
    "UHJvamVjdCBHdXRlbmJlcmdyZWdhcmRsZXNzIG9mIHRoZWhhcyBiZWVuIHByb3Bvc2VkdG9nZXRoZXIgd2l0aCB0aGU+",
    "PC9saT48bGkgY2xhc3M9ImluIHNvbWUgY291bnRyaWVzbWluLmpzIj48L3NjcmlwdD5vZiB0aGUgcG9wdWxhdGlvbm9m",
    "ZmljaWFsIGxhbmd1YWdlPGltZyBzcmM9ImltYWdlcy9pZGVudGlmaWVkIGJ5IHRoZW5hdHVyYWwgcmVzb3VyY2VzY2xh",
    "c3NpZmljYXRpb24gb2ZjYW4gYmUgY29uc2lkZXJlZHF1YW50dW0gbWVjaGFuaWNzTmV2ZXJ0aGVsZXNzLCB0aGVtaWxs",
    "aW9uIHllYXJzIGFnbzwvYm9keT4NCjwvaHRtbD4NzpXOu867zrfOvc65zrrOrAp0YWtlIGFkdmFudGFnZSBvZmFuZCwg",
    "YWNjb3JkaW5nIHRvYXR0cmlidXRlZCB0byB0aGVNaWNyb3NvZnQgV2luZG93c3RoZSBmaXJzdCBjZW50dXJ5dW5kZXIg",
    "dGhlIGNvbnRyb2xkaXYgY2xhc3M9ImhlYWRlcnNob3J0bHkgYWZ0ZXIgdGhlbm90YWJsZSBleGNlcHRpb250ZW5zIG9m",
    "IHRob3VzYW5kc3NldmVyYWwgZGlmZmVyZW50YXJvdW5kIHRoZSB3b3JsZC5yZWFjaGluZyBtaWxpdGFyeWlzb2xhdGVk",
    "IGZyb20gdGhlb3Bwb3NpdGlvbiB0byB0aGV0aGUgT2xkIFRlc3RhbWVudEFmcmljYW4gQW1lcmljYW5zaW5zZXJ0ZWQg",
    "aW50byB0aGVzZXBhcmF0ZSBmcm9tIHRoZW1ldHJvcG9saXRhbiBhcmVhbWFrZXMgaXQgcG9zc2libGVhY2tub3dsZWRn",
    "ZWQgdGhhdGFyZ3VhYmx5IHRoZSBtb3N0dHlwZT0idGV4dC9jc3MiPgp0aGUgSW50ZXJuYXRpb25hbEFjY29yZGluZyB0",
    "byB0aGUgcGU9InRleHQvY3NzIiAvPgpjb2luY2lkZSB3aXRoIHRoZXR3by10aGlyZHMgb2YgdGhlRHVyaW5nIHRoaXMg",
    "dGltZSxkdXJpbmcgdGhlIHBlcmlvZGFubm91bmNlZCB0aGF0IGhldGhlIGludGVybmF0aW9uYWxhbmQgbW9yZSByZWNl",
    "bnRseWJlbGlldmVkIHRoYXQgdGhlY29uc2Npb3VzbmVzcyBhbmRmb3JtZXJseSBrbm93biBhc3N1cnJvdW5kZWQgYnkg",
    "dGhlZmlyc3QgYXBwZWFyZWQgaW5vY2Nhc2lvbmFsbHkgdXNlZA=="]

def length18 : List String :=
  ["cG9zaXRpb246YWJzb2x1dGU7IiB0YXJnZXQ9Il9ibGFuayIgcG9zaXRpb246cmVsYXRpdmU7dGV4dC1hbGlnbjpjZW50",
    "ZXI7amF4L2xpYnMvanF1ZXJ5LzEuYmFja2dyb3VuZC1jb2xvcjojdHlwZT0iYXBwbGljYXRpb24vYW5ndWFnZSIgY29u",
    "dGVudD0iPG1ldGEgaHR0cC1lcXVpdj0iUHJpdmFjeSBQb2xpY3k8L2E+ZSgiJTNDc2NyaXB0IHNyYz0nIiB0YXJnZXQ9",
    "Il9ibGFuayI+T24gdGhlIG90aGVyIGhhbmQsLmpwZ3x0aHVtYnxyaWdodHwyPC9kaXY+PGRpdiBjbGFzcz0iPGRpdiBz",
    "dHlsZT0iZmxvYXQ6bmluZXRlZW50aCBjZW50dXJ5PC9ib2R5Pg0KPC9odG1sPg0KPGltZyBzcmM9Imh0dHA6Ly9zO3Rl",
    "eHQtYWxpZ246Y2VudGVyZm9udC13ZWlnaHQ6IGJvbGQ7IEFjY29yZGluZyB0byB0aGUgZGlmZmVyZW5jZSBiZXR3ZWVu",
    "IiBmcmFtZWJvcmRlcj0iMCIgIiBzdHlsZT0icG9zaXRpb246bGluayBocmVmPSJodHRwOi8vaHRtbDQvbG9vc2UuZHRk",
    "Ij4KZHVyaW5nIHRoaXMgcGVyaW9kPC90ZD48L3RyPjwvdGFibGU+Y2xvc2VseSByZWxhdGVkIHRvZm9yIHRoZSBmaXJz",
    "dCB0aW1lO2ZvbnQtd2VpZ2h0OmJvbGQ7aW5wdXQgdHlwZT0idGV4dCIgPHNwYW4gc3R5bGU9ImZvbnQtb25yZWFkeXN0",
    "YXRlY2hhbmdlCTxkaXYgY2xhc3M9ImNsZWFyZG9jdW1lbnQubG9jYXRpb24uIEZvciBleGFtcGxlLCB0aGUgYSB3aWRl",
    "IHZhcmlldHkgb2YgPCFET0NUWVBFIGh0bWw+DQo8Jm5ic3A7Jm5ic3A7Jm5ic3A7Ij48YSBocmVmPSJodHRwOi8vc3R5",
    "bGU9ImZsb2F0OmxlZnQ7Y29uY2VybmVkIHdpdGggdGhlPWh0dHAlM0ElMkYlMkZ3d3cuaW4gcG9wdWxhciBjdWx0dXJl",
    "dHlwZT0idGV4dC9jc3MiIC8+aXQgaXMgcG9zc2libGUgdG8gSGFydmFyZCBVbml2ZXJzaXR5dHlsZXNoZWV0IiBocmVm",
    "PSIvdGhlIG1haW4gY2hhcmFjdGVyT3hmb3JkIFVuaXZlcnNpdHkgIG5hbWU9ImtleXdvcmRzIiBjc3R5bGU9InRleHQt",
    "YWxpZ246dGhlIFVuaXRlZCBLaW5nZG9tZmVkZXJhbCBnb3Zlcm5tZW50PGRpdiBzdHlsZT0ibWFyZ2luIGRlcGVuZGlu",
    "ZyBvbiB0aGUgZGVzY3JpcHRpb24gb2YgdGhlPGRpdiBjbGFzcz0iaGVhZGVyLm1pbi5qcyI+PC9zY3JpcHQ+ZGVzdHJ1",
    "Y3Rpb24gb2YgdGhlc2xpZ2h0bHkgZGlmZmVyZW50aW4gYWNjb3JkYW5jZSB3aXRodGVsZWNvbW11bmljYXRpb25zaW5k",
    "aWNhdGVzIHRoYXQgdGhlc2hvcnRseSB0aGVyZWFmdGVyZXNwZWNpYWxseSBpbiB0aGUgRXVyb3BlYW4gY291bnRyaWVz",
    "SG93ZXZlciwgdGhlcmUgYXJlc3JjPSJodHRwOi8vc3RhdGljc3VnZ2VzdGVkIHRoYXQgdGhlIiBzcmM9Imh0dHA6Ly93",
    "d3cuYSBsYXJnZSBudW1iZXIgb2YgVGVsZWNvbW11bmljYXRpb25zIiByZWw9Im5vZm9sbG93IiB0SG9seSBSb21hbiBF",
    "bXBlcm9yYWxtb3N0IGV4Y2x1c2l2ZWx5IiBib3JkZXI9IjAiIGFsdD0iU2VjcmV0YXJ5IG9mIFN0YXRlY3VsbWluYXRp",
    "bmcgaW4gdGhlQ0lBIFdvcmxkIEZhY3Rib29rdGhlIG1vc3QgaW1wb3J0YW50YW5uaXZlcnNhcnkgb2YgdGhlc3R5bGU9",
    "ImJhY2tncm91bmQtPGxpPjxlbT48YSBocmVmPSIvdGhlIEF0bGFudGljIE9jZWFuc3RyaWN0bHkgc3BlYWtpbmcsc2hv",
    "cnRseSBiZWZvcmUgdGhlZGlmZmVyZW50IHR5cGVzIG9mdGhlIE90dG9tYW4gRW1waXJlPjxpbWcgc3JjPSJodHRwOi8v",
    "QW4gSW50cm9kdWN0aW9uIHRvY29uc2VxdWVuY2Ugb2YgdGhlZGVwYXJ0dXJlIGZyb20gdGhlQ29uZmVkZXJhdGUgU3Rh",
    "dGVzaW5kaWdlbm91cyBwZW9wbGVzUHJvY2VlZGluZ3Mgb2YgdGhlaW5mb3JtYXRpb24gb24gdGhldGhlb3JpZXMgaGF2",
    "ZSBiZWVuaW52b2x2ZW1lbnQgaW4gdGhlZGl2aWRlZCBpbnRvIHRocmVlYWRqYWNlbnQgY291bnRyaWVzaXMgcmVzcG9u",
    "c2libGUgZm9yZGlzc29sdXRpb24gb2YgdGhlY29sbGFib3JhdGlvbiB3aXRod2lkZWx5IHJlZ2FyZGVkIGFzaGlzIGNv",
    "bnRlbXBvcmFyaWVzZm91bmRpbmcgbWVtYmVyIG9mRG9taW5pY2FuIFJlcHVibGljZ2VuZXJhbGx5IGFjY2VwdGVkdGhl",
    "IHBvc3NpYmlsaXR5IG9mYXJlIGFsc28gYXZhaWxhYmxldW5kZXIgY29uc3RydWN0aW9ucmVzdG9yYXRpb24gb2YgdGhl",
    "dGhlIGdlbmVyYWwgcHVibGljaXMgYWxtb3N0IGVudGlyZWx5cGFzc2VzIHRocm91Z2ggdGhlaGFzIGJlZW4gc3VnZ2Vz",
    "dGVkY29tcHV0ZXIgYW5kIHZpZGVvR2VybWFuaWMgbGFuZ3VhZ2VzIGFjY29yZGluZyB0byB0aGUgZGlmZmVyZW50IGZy",
    "b20gdGhlc2hvcnRseSBhZnRlcndhcmRzaHJlZj0iaHR0cHM6Ly93d3cucmVjZW50IGRldmVsb3BtZW50Qm9hcmQgb2Yg",
    "RGlyZWN0b3JzPGRpdiBjbGFzcz0ic2VhcmNofCA8YSBocmVmPSJodHRwOi8vSW4gcGFydGljdWxhciwgdGhlTXVsdGlw",
    "bGUgZm9vdG5vdGVzb3Igb3RoZXIgc3Vic3RhbmNldGhvdXNhbmRzIG9mIHllYXJzdHJhbnNsYXRpb24gb2YgdGhlPC9k",
    "aXY+DQo8L2Rpdj4NCg0KPGEgaHJlZj0iaW5kZXgucGhwd2FzIGVzdGFibGlzaGVkIGlubWluLmpzIj48L3NjcmlwdD4K",
    "cGFydGljaXBhdGUgaW4gdGhlYSBzdHJvbmcgaW5mbHVlbmNlc3R5bGU9Im1hcmdpbi10b3A6cmVwcmVzZW50ZWQgYnkg",
    "dGhlZ3JhZHVhdGVkIGZyb20gdGhlVHJhZGl0aW9uYWxseSwgdGhlRWxlbWVudCgic2NyaXB0Iik7SG93ZXZlciwgc2lu",
    "Y2UgdGhlL2Rpdj4KPC9kaXY+CjxkaXYgbGVmdDsgbWFyZ2luLWxlZnQ6cHJvdGVjdGlvbiBhZ2FpbnN0MDsgdmVydGlj",
    "YWwtYWxpZ246VW5mb3J0dW5hdGVseSwgdGhldHlwZT0iaW1hZ2UveC1pY29uL2Rpdj4KPGRpdiBjbGFzcz0iIGNsYXNz",
    "PSJjbGVhcmZpeCI+PGRpdiBjbGFzcz0iZm9vdGVyCQk8L2Rpdj4KCQk8L2Rpdj4KdGhlIG1vdGlvbiBwaWN0dXJl0JHR",
    "itC70LPQsNGA0YHQutC40LHRitC70LPQsNGA0YHQutC40KTQtdC00LXRgNCw0YbQuNC40L3QtdGB0LrQvtC70YzQutC+",
    "0YHQvtC+0LHRidC10L3QuNC10YHQvtC+0LHRidC10L3QuNGP0L/RgNC+0LPRgNCw0LzQvNGL0J7RgtC/0YDQsNCy0LjR",
    "gtGM0LHQtdGB0L/Qu9Cw0YLQvdC+0LzQsNGC0LXRgNC40LDQu9GL0L/QvtC30LLQvtC70Y/QtdGC0L/QvtGB0LvQtdC0",
    "0L3QuNC10YDQsNC30LvQuNGH0L3Ri9GF0L/RgNC+0LTRg9C60YbQuNC40L/RgNC+0LPRgNCw0LzQvNCw0L/QvtC70L3Q",
    "vtGB0YLRjNGO0L3QsNGF0L7QtNC40YLRgdGP0LjQt9Cx0YDQsNC90L3QvtC10L3QsNGB0LXQu9C10L3QuNGP0LjQt9C8",
    "0LXQvdC10L3QuNGP0LrQsNGC0LXQs9C+0YDQuNC40JDQu9C10LrRgdCw0L3QtNGA4KSm4KWN4KS14KS+4KSw4KS+4KSu",
    "4KWI4KSo4KWB4KSF4KSy4KSq4KWN4KSw4KSm4KS+4KSo4KSt4KS+4KSw4KSk4KWA4KSv4KSF4KSo4KWB4KSm4KWH4KS2",
    "4KS54KS/4KSo4KWN4KSm4KWA4KSH4KSC4KSh4KS/4KSv4KS+4KSm4KS/4KSy4KWN4KSy4KWA4KSF4KSn4KS/4KSV4KS+",
    "4KSw4KS14KWA4KSh4KS/4KSv4KWL4KSa4KS/4KSf4KWN4KSg4KWH4KS44KSu4KS+4KSa4KS+4KSw4KSc4KSC4KSV4KWN",
    "4KS24KSo4KSm4KWB4KSo4KS/4KSv4KS+4KSq4KWN4KSw4KSv4KWL4KSX4KSF4KSo4KWB4KS44KS+4KSw4KSR4KSo4KSy",
    "4KS+4KSH4KSo4KSq4KS+4KSw4KWN4KSf4KWA4KS24KSw4KWN4KSk4KWL4KSC4KSy4KWL4KSV4KS44KSt4KS+4KSr4KS8",
    "4KWN4KSy4KWI4KS24KS24KSw4KWN4KSk4KWH4KSC4KSq4KWN4KSw4KSm4KWH4KS24KSq4KWN4KSy4KWH4KSv4KSw4KSV",
    "4KWH4KSC4KSm4KWN4KSw4KS44KWN4KSl4KS/4KSk4KS/4KSJ4KSk4KWN4KSq4KS+4KSm4KSJ4KSo4KWN4KS54KWH4KSC",
    "4KSa4KS/4KSf4KWN4KSg4KS+4KSv4KS+4KSk4KWN4KSw4KS+4KSc4KWN4KSv4KS+4KSm4KS+4KSq4KWB4KSw4KS+4KSo",
    "4KWH4KSc4KWL4KSh4KS84KWH4KSC4KSF4KSo4KWB4KS14KS+4KSm4KS24KWN4KSw4KWH4KSj4KWA4KS24KS/4KSV4KWN",
    "4KS34KS+4KS44KSw4KSV4KS+4KSw4KWA4KS44KSC4KSX4KWN4KSw4KS54KSq4KSw4KS/4KSj4KS+4KSu4KSs4KWN4KSw",
    "4KS+4KSC4KSh4KSs4KSa4KWN4KSa4KWL4KSC4KSJ4KSq4KSy4KSs4KWN4KSn4KSu4KSC4KSk4KWN4KSw4KWA4KS44KSC",
    "4KSq4KSw4KWN4KSV4KSJ4KSu4KWN4KSu4KWA4KSm4KSu4KS+4KSn4KWN4KSv4KSu4KS44KS54KS+4KSv4KSk4KS+4KS2",
    "4KSs4KWN4KSm4KWL4KSC4KSu4KWA4KSh4KS/4KSv4KS+4KSG4KSI4KSq4KWA4KSP4KSy4KSu4KWL4KSs4KS+4KSH4KSy",
    "4KS44KSC4KSW4KWN4KSv4KS+4KSG4KSq4KSw4KWH4KS24KSo4KSF4KSo4KWB4KSs4KSC4KSn4KSs4KS+4KSc4KS84KS+",
    "4KSw4KSo4KS14KWA4KSo4KSk4KSu4KSq4KWN4KSw4KSu4KWB4KSW4KSq4KWN4KSw4KS24KWN4KSo4KSq4KSw4KS/4KS1",
    "4KS+4KSw4KSo4KWB4KSV4KS44KS+4KSo4KS44KSu4KSw4KWN4KSl4KSo4KSG4KSv4KWL4KSc4KS/4KSk4KS44KWL4KSu",
    "4KS14KS+4KSw2KfZhNmF2LTYp9ix2YPYp9iq2KfZhNmF2YbYqtiv2YrYp9iq2KfZhNmD2YXYqNmK2YjYqtix2KfZhNmF",
    "2LTYp9mH2K/Yp9iq2LnYr9iv2KfZhNiy2YjYp9ix2LnYr9iv2KfZhNix2K/ZiNiv2KfZhNil2LPZhNin2YXZitip2KfZ",
    "hNmB2YjYqtmI2LTZiNio2KfZhNmF2LPYp9io2YLYp9iq2KfZhNmF2LnZhNmI2YXYp9iq2KfZhNmF2LPZhNiz2YTYp9iq",
    "2KfZhNis2LHYp9mB2YrZg9iz2KfZhNin2LPZhNin2YXZitip2KfZhNin2KrYtdin2YTYp9iq"]

def length19 : List String :=
  ["a2V5d29yZHMiIGNvbnRlbnQ9InczLm9yZy8xOTk5L3hodG1sIj48YSB0YXJnZXQ9Il9ibGFuayIgdGV4dC9odG1sOyBj",
    "aGFyc2V0PSIgdGFyZ2V0PSJfYmxhbmsiPjx0YWJsZSBjZWxscGFkZGluZz0iYXV0b2NvbXBsZXRlPSJvZmYiIHRleHQt",
    "YWxpZ246IGNlbnRlcjt0byBsYXN0IHZlcnNpb24gYnkgYmFja2dyb3VuZC1jb2xvcjogIyIgaHJlZj0iaHR0cDovL3d3",
    "dy4vZGl2PjwvZGl2PjxkaXYgaWQ9PGEgaHJlZj0iIyIgY2xhc3M9IiI+PGltZyBzcmM9Imh0dHA6Ly9jcmlwdCIgc3Jj",
    "PSJodHRwOi8vCjxzY3JpcHQgbGFuZ3VhZ2U9Ii8vRU4iICJodHRwOi8vd3d3LndlbmNvZGVVUklDb21wb25lbnQoIiBo",
    "cmVmPSJqYXZhc2NyaXB0OjxkaXYgY2xhc3M9ImNvbnRlbnRkb2N1bWVudC53cml0ZSgnPHNjcG9zaXRpb246IGFic29s",
    "dXRlO3NjcmlwdCBzcmM9Imh0dHA6Ly8gc3R5bGU9Im1hcmdpbi10b3A6Lm1pbi5qcyI+PC9zY3JpcHQ+CjwvZGl2Pgo8",
    "ZGl2IGNsYXNzPSJ3My5vcmcvMTk5OS94aHRtbCIgCg0KPC9ib2R5Pg0KPC9odG1sPmRpc3RpbmN0aW9uIGJldHdlZW4v",
    "IiB0YXJnZXQ9Il9ibGFuayI+PGxpbmsgaHJlZj0iaHR0cDovL2VuY29kaW5nPSJ1dGYtOCI/Pgp3LmFkZEV2ZW50TGlz",
    "dGVuZXI/YWN0aW9uPSJodHRwOi8vd3d3Lmljb24iIGhyZWY9Imh0dHA6Ly8gc3R5bGU9ImJhY2tncm91bmQ6dHlwZT0i",
    "dGV4dC9jc3MiIC8+Cm1ldGEgcHJvcGVydHk9Im9nOnQ8aW5wdXQgdHlwZT0idGV4dCIgIHN0eWxlPSJ0ZXh0LWFsaWdu",
    "OnRoZSBkZXZlbG9wbWVudCBvZiB0eWxlc2hlZXQiIHR5cGU9InRlaHRtbDsgY2hhcnNldD11dGYtOGlzIGNvbnNpZGVy",
    "ZWQgdG8gYmV0YWJsZSB3aWR0aD0iMTAwJSIgSW4gYWRkaXRpb24gdG8gdGhlIGNvbnRyaWJ1dGVkIHRvIHRoZSBkaWZm",
    "ZXJlbmNlcyBiZXR3ZWVuZGV2ZWxvcG1lbnQgb2YgdGhlIEl0IGlzIGltcG9ydGFudCB0byA8L3NjcmlwdD4KCjxzY3Jp",
    "cHQgIHN0eWxlPSJmb250LXNpemU6MT48L3NwYW4+PHNwYW4gaWQ9Z2JMaWJyYXJ5IG9mIENvbmdyZXNzPGltZyBzcmM9",
    "Imh0dHA6Ly9pbUVuZ2xpc2ggdHJhbnNsYXRpb25BY2FkZW15IG9mIFNjaWVuY2VzZGl2IHN0eWxlPSJkaXNwbGF5OmNv",
    "bnN0cnVjdGlvbiBvZiB0aGUuZ2V0RWxlbWVudEJ5SWQoaWQpaW4gY29uanVuY3Rpb24gd2l0aEVsZW1lbnQoJ3Njcmlw",
    "dCcpOyA8bWV0YSBwcm9wZXJ0eT0ib2c60JHRitC70LPQsNGA0YHQutC4CiB0eXBlPSJ0ZXh0IiBuYW1lPSI+UHJpdmFj",
    "eSBQb2xpY3k8L2E+YWRtaW5pc3RlcmVkIGJ5IHRoZWVuYWJsZVNpbmdsZVJlcXVlc3RzdHlsZT0mcXVvdDttYXJnaW46",
    "PC9kaXY+PC9kaXY+PC9kaXY+PD48aW1nIHNyYz0iaHR0cDovL2kgc3R5bGU9JnF1b3Q7ZmxvYXQ6cmVmZXJyZWQgdG8g",
    "YXMgdGhlIHRvdGFsIHBvcHVsYXRpb24gb2ZpbiBXYXNoaW5ndG9uLCBELkMuIHN0eWxlPSJiYWNrZ3JvdW5kLWFtb25n",
    "IG90aGVyIHRoaW5ncyxvcmdhbml6YXRpb24gb2YgdGhlcGFydGljaXBhdGVkIGluIHRoZXRoZSBpbnRyb2R1Y3Rpb24g",
    "b2ZpZGVudGlmaWVkIHdpdGggdGhlZmljdGlvbmFsIGNoYXJhY3RlciBPeGZvcmQgVW5pdmVyc2l0eSBtaXN1bmRlcnN0",
    "YW5kaW5nIG9mVGhlcmUgYXJlLCBob3dldmVyLHN0eWxlc2hlZXQiIGhyZWY9Ii9Db2x1bWJpYSBVbml2ZXJzaXR5ZXhw",
    "YW5kZWQgdG8gaW5jbHVkZXVzdWFsbHkgcmVmZXJyZWQgdG9pbmRpY2F0aW5nIHRoYXQgdGhlaGF2ZSBzdWdnZXN0ZWQg",
    "dGhhdGFmZmlsaWF0ZWQgd2l0aCB0aGVjb3JyZWxhdGlvbiBiZXR3ZWVubnVtYmVyIG9mIGRpZmZlcmVudD48L3RkPjwv",
    "dHI+PC90YWJsZT5SZXB1YmxpYyBvZiBJcmVsYW5kCjwvc2NyaXB0Pgo8c2NyaXB0IHVuZGVyIHRoZSBpbmZsdWVuY2Vj",
    "b250cmlidXRpb24gdG8gdGhlT2ZmaWNpYWwgd2Vic2l0ZSBvZmhlYWRxdWFydGVycyBvZiB0aGVjZW50ZXJlZCBhcm91",
    "bmQgdGhlaW1wbGljYXRpb25zIG9mIHRoZWhhdmUgYmVlbiBkZXZlbG9wZWRGZWRlcmFsIFJlcHVibGljIG9mYmVjYW1l",
    "IGluY3JlYXNpbmdseWNvbnRpbnVhdGlvbiBvZiB0aGVOb3RlLCBob3dldmVyLCB0aGF0c2ltaWxhciB0byB0aGF0IG9m",
    "IGNhcGFiaWxpdGllcyBvZiB0aGVhY2NvcmRhbmNlIHdpdGggdGhlcGFydGljaXBhbnRzIGluIHRoZWZ1cnRoZXIgZGV2",
    "ZWxvcG1lbnR1bmRlciB0aGUgZGlyZWN0aW9uaXMgb2Z0ZW4gY29uc2lkZXJlZGhpcyB5b3VuZ2VyIGJyb3RoZXI8L3Rk",
    "PjwvdHI+PC90YWJsZT48YSBodHRwLWVxdWl2PSJYLVVBLXBoeXNpY2FsIHByb3BlcnRpZXNvZiBCcml0aXNoIENvbHVt",
    "YmlhaGFzIGJlZW4gY3JpdGljaXplZCh3aXRoIHRoZSBleGNlcHRpb25xdWVzdGlvbnMgYWJvdXQgdGhlcGFzc2luZyB0",
    "aHJvdWdoIHRoZTAiIGNlbGxwYWRkaW5nPSIwIiB0aG91c2FuZHMgb2YgcGVvcGxlcmVkaXJlY3RzIGhlcmUuIEZvcmhh",
    "dmUgY2hpbGRyZW4gdW5kZXI="]

def length20 : List String :=
  ["JTNFJTNDL3NjcmlwdCUzRSIpKTs8YSBocmVmPSJodHRwOi8vd3d3LjxsaT48YSBocmVmPSJodHRwOi8vc2l0ZV9uYW1l",
    "IiBjb250ZW50PSJ0ZXh0LWRlY29yYXRpb246bm9uZXN0eWxlPSJkaXNwbGF5OiBub25lPG1ldGEgaHR0cC1lcXVpdj0i",
    "WC1uZXcgRGF0ZSgpLmdldFRpbWUoKSB0eXBlPSJpbWFnZS94LWljb24iPC9zcGFuPjxzcGFuIGNsYXNzPSJsYW5ndWFn",
    "ZT0iamF2YXNjcmlwdHdpbmRvdy5sb2NhdGlvbi5ocmVmPGEgaHJlZj0iamF2YXNjcmlwdDotLT4NCjxzY3JpcHQgdHlw",
    "ZT0idDxhIGhyZWY9J2h0dHA6Ly93d3cuaG9ydGN1dCBpY29uIiBocmVmPSI8L2Rpdj4NCjxkaXYgY2xhc3M9IjxzY3Jp",
    "cHQgc3JjPSJodHRwOi8vIiByZWw9InN0eWxlc2hlZXQiIHQ8L2Rpdj4KPHNjcmlwdCB0eXBlPS9hPiA8YSBocmVmPSJo",
    "dHRwOi8vIGFsbG93VHJhbnNwYXJlbmN5PSJYLVVBLUNvbXBhdGlibGUiIGNvbnJlbGF0aW9uc2hpcCBiZXR3ZWVuCjwv",
    "c2NyaXB0Pg0KPHNjcmlwdCA8L2E+PC9saT48L3VsPjwvZGl2PmFzc29jaWF0ZWQgd2l0aCB0aGUgcHJvZ3JhbW1pbmcg",
    "bGFuZ3VhZ2U8L2E+PGEgaHJlZj0iaHR0cDovLzwvYT48L2xpPjxsaSBjbGFzcz0iZm9ybSBhY3Rpb249Imh0dHA6Ly88",
    "ZGl2IHN0eWxlPSJkaXNwbGF5OnR5cGU9InRleHQiIG5hbWU9InEiPHRhYmxlIHdpZHRoPSIxMDAlIiBiYWNrZ3JvdW5k",
    "LXBvc2l0aW9uOiIgYm9yZGVyPSIwIiB3aWR0aD0icmVsPSJzaG9ydGN1dCBpY29uIiBoNj48dWw+PGxpPjxhIGhyZWY9",
    "IiAgPG1ldGEgaHR0cC1lcXVpdj0iY3NzIiBtZWRpYT0ic2NyZWVuIiByZXNwb25zaWJsZSBmb3IgdGhlICIgdHlwZT0i",
    "YXBwbGljYXRpb24vIiBzdHlsZT0iYmFja2dyb3VuZC1odG1sOyBjaGFyc2V0PXV0Zi04IiBhbGxvd3RyYW5zcGFyZW5j",
    "eT0ic3R5bGVzaGVldCIgdHlwZT0idGUNCjxtZXRhIGh0dHAtZXF1aXY9Ij48L3NwYW4+PHNwYW4gY2xhc3M9IjAiIGNl",
    "bGxzcGFjaW5nPSIwIj47Cjwvc2NyaXB0Pgo8c2NyaXB0IHNvbWV0aW1lcyBjYWxsZWQgdGhlZG9lcyBub3QgbmVjZXNz",
    "YXJpbHlGb3IgbW9yZSBpbmZvcm1hdGlvbmF0IHRoZSBiZWdpbm5pbmcgb2YgPCFET0NUWVBFIGh0bWw+PGh0bWxwYXJ0",
    "aWN1bGFybHkgaW4gdGhlIHR5cGU9ImhpZGRlbiIgbmFtZT0iamF2YXNjcmlwdDp2b2lkKDApOyJlZmZlY3RpdmVuZXNz",
    "IG9mIHRoZSBhdXRvY29tcGxldGU9Im9mZiIgZ2VuZXJhbGx5IGNvbnNpZGVyZWQ+PGlucHV0IHR5cGU9InRleHQiICI+",
    "PC9zY3JpcHQ+DQo8c2NyaXB0dGhyb3VnaG91dCB0aGUgd29ybGRjb21tb24gbWlzY29uY2VwdGlvbmFzc29jaWF0aW9u",
    "IHdpdGggdGhlPC9kaXY+CjwvZGl2Pgo8ZGl2IGNkdXJpbmcgaGlzIGxpZmV0aW1lLGNvcnJlc3BvbmRpbmcgdG8gdGhl",
    "dHlwZT0iaW1hZ2UveC1pY29uIiBhbiBpbmNyZWFzaW5nIG51bWJlcmRpcGxvbWF0aWMgcmVsYXRpb25zYXJlIG9mdGVu",
    "IGNvbnNpZGVyZWRtZXRhIGNoYXJzZXQ9InV0Zi04IiA8aW5wdXQgdHlwZT0idGV4dCIgZXhhbXBsZXMgaW5jbHVkZSB0",
    "aGUiPjxpbWcgc3JjPSJodHRwOi8vaXBhcnRpY2lwYXRpb24gaW4gdGhldGhlIGVzdGFibGlzaG1lbnQgb2YKPC9kaXY+",
    "CjxkaXYgY2xhc3M9IiZhbXA7bmJzcDsmYW1wO25ic3A7dG8gZGV0ZXJtaW5lIHdoZXRoZXJxdWl0ZSBkaWZmZXJlbnQg",
    "ZnJvbW1hcmtlZCB0aGUgYmVnaW5uaW5nZGlzdGFuY2UgYmV0d2VlbiB0aGVjb250cmlidXRpb25zIHRvIHRoZWNvbmZs",
    "aWN0IGJldHdlZW4gdGhld2lkZWx5IGNvbnNpZGVyZWQgdG93YXMgb25lIG9mIHRoZSBmaXJzdHdpdGggdmFyeWluZyBk",
    "ZWdyZWVzaGF2ZSBzcGVjdWxhdGVkIHRoYXQoZG9jdW1lbnQuZ2V0RWxlbWVudHBhcnRpY2lwYXRpbmcgaW4gdGhlb3Jp",
    "Z2luYWxseSBkZXZlbG9wZWRldGEgY2hhcnNldD0idXRmLTgiPiB0eXBlPSJ0ZXh0L2NzcyIgLz4KaW50ZXJjaGFuZ2Vh",
    "Ymx5IHdpdGhtb3JlIGNsb3NlbHkgcmVsYXRlZHNvY2lhbCBhbmQgcG9saXRpY2FsdGhhdCB3b3VsZCBvdGhlcndpc2Vw",
    "ZXJwZW5kaWN1bGFyIHRvIHRoZXN0eWxlIHR5cGU9InRleHQvY3NzdHlwZT0ic3VibWl0IiBuYW1lPSJmYW1pbGllcyBy",
    "ZXNpZGluZyBpbmRldmVsb3BpbmcgY291bnRyaWVzY29tcHV0ZXIgcHJvZ3JhbW1pbmdlY29ub21pYyBkZXZlbG9wbWVu",
    "dGRldGVybWluYXRpb24gb2YgdGhlZm9yIG1vcmUgaW5mb3JtYXRpb25vbiBzZXZlcmFsIG9jY2FzaW9uc3BvcnR1Z3XD",
    "qnMgKEV1cm9wZXUp0KPQutGA0LDRl9C90YHRjNC60LDRg9C60YDQsNGX0L3RgdGM0LrQsNCg0L7RgdGB0LjQudGB0LrQ",
    "vtC50LzQsNGC0LXRgNC40LDQu9C+0LLQuNC90YTQvtGA0LzQsNGG0LjQuNGD0L/RgNCw0LLQu9C10L3QuNGP0L3QtdC+",
    "0LHRhdC+0LTQuNC80L7QuNC90YTQvtGA0LzQsNGG0LjRj9CY0L3RhNC+0YDQvNCw0YbQuNGP0KDQtdGB0L/Rg9Cx0LvQ",
    "uNC60LjQutC+0LvQuNGH0LXRgdGC0LLQvtC40L3RhNC+0YDQvNCw0YbQuNGO0YLQtdGA0YDQuNGC0L7RgNC40LjQtNC+",
    "0YHRgtCw0YLQvtGH0L3Qvtin2YTZhdiq2YjYp9is2K/ZiNmG2KfZhNin2LTYqtix2KfZg9in2KrYp9mE2KfZgtiq2LHY",
    "p9it2KfYqg=="]

def length21 : List String :=
  ["aHRtbDsgY2hhcnNldD1VVEYtOCIgc2V0VGltZW91dChmdW5jdGlvbigpZGlzcGxheTppbmxpbmUtYmxvY2s7PGlucHV0",
    "IHR5cGU9InN1Ym1pdCIgdHlwZSA9ICd0ZXh0L2phdmFzY3JpPGltZyBzcmM9Imh0dHA6Ly93d3cuIiAiaHR0cDovL3d3",
    "dy53My5vcmcvc2hvcnRjdXQgaWNvbiIgaHJlZj0iIiBhdXRvY29tcGxldGU9Im9mZiIgPC9hPjwvZGl2PjxkaXYgY2xh",
    "c3M9PC9hPjwvbGk+CjxsaSBjbGFzcz0iY3NzIiB0eXBlPSJ0ZXh0L2NzcyIgPGZvcm0gYWN0aW9uPSJodHRwOi8veHQv",
    "Y3NzIiBocmVmPSJodHRwOi8vbGluayByZWw9ImFsdGVybmF0ZSIgDQo8c2NyaXB0IHR5cGU9InRleHQvIG9uY2xpY2s9",
    "ImphdmFzY3JpcHQ6KG5ldyBEYXRlKS5nZXRUaW1lKCl9aGVpZ2h0PSIxIiB3aWR0aD0iMSIgUGVvcGxlJ3MgUmVwdWJs",
    "aWMgb2YgIDxhIGhyZWY9Imh0dHA6Ly93d3cudGV4dC1kZWNvcmF0aW9uOnVuZGVydGhlIGJlZ2lubmluZyBvZiB0aGUg",
    "PC9kaXY+CjwvZGl2Pgo8L2Rpdj4KZXN0YWJsaXNobWVudCBvZiB0aGUgPC9kaXY+PC9kaXY+PC9kaXY+PC9kI3ZpZXdw",
    "b3J0e21pbi1oZWlnaHQ6CjxzY3JpcHQgc3JjPSJodHRwOi8vb3B0aW9uPjxvcHRpb24gdmFsdWU9b2Z0ZW4gcmVmZXJy",
    "ZWQgdG8gYXMgL29wdGlvbj4KPG9wdGlvbiB2YWx1PCFET0NUWVBFIGh0bWw+CjwhLS1bSW50ZXJuYXRpb25hbCBBaXJw",
    "b3J0Pgo8YSBocmVmPSJodHRwOi8vd3d3PC9hPjxhIGhyZWY9Imh0dHA6Ly934Lig4Liy4Lip4Liy4LmE4LiX4Lii4YOl",
    "4YOQ4YOg4YOX4YOj4YOa4YOY5q2j6auU5Lit5paHICjnuYHpq5Qp4KSo4KS/4KSw4KWN4KSm4KWH4KS24KSh4KS+4KSJ",
    "4KSo4KSy4KWL4KSh4KSV4KWN4KS34KWH4KSk4KWN4KSw4KSc4KS+4KSo4KSV4KS+4KSw4KWA4KS44KSC4KSs4KSC4KSn",
    "4KS/4KSk4KS44KWN4KSl4KS+4KSq4KSo4KS+4KS44KWN4KS14KWA4KSV4KS+4KSw4KS44KSC4KS44KWN4KSV4KSw4KSj",
    "4KS44KS+4KSu4KSX4KWN4KSw4KWA4KSa4KS/4KSf4KWN4KSg4KWL4KSC4KS14KS/4KSc4KWN4KSe4KS+4KSo4KSF4KSu",
    "4KWH4KSw4KS/4KSV4KS+4KS14KS/4KSt4KS/4KSo4KWN4KSo4KSX4KS+4KSh4KS/4KSv4KS+4KSB4KSV4KWN4KSv4KWL",
    "4KSC4KSV4KS/4KS44KWB4KSw4KSV4KWN4KS34KS+4KSq4KS54KWB4KSB4KSa4KSk4KWA4KSq4KWN4KSw4KSs4KSC4KSn",
    "4KSo4KSf4KS/4KSq4KWN4KSq4KSj4KWA4KSV4KWN4KSw4KS/4KSV4KWH4KSf4KSq4KWN4KSw4KS+4KSw4KSC4KSt4KSq",
    "4KWN4KSw4KS+4KSq4KWN4KSk4KSu4KS+4KSy4KS/4KSV4KWL4KSC4KSw4KSr4KS84KWN4KSk4KS+4KSw4KSo4KS/4KSw",
    "4KWN4KSu4KS+4KSj4KSy4KS/4KSu4KS/4KSf4KWH4KSh"]

def length22 : List String :=
  ["ZGVzY3JpcHRpb24iIGNvbnRlbnQ9ImRvY3VtZW50LmxvY2F0aW9uLnByb3QuZ2V0RWxlbWVudHNCeVRhZ05hbWUoPCFE",
    "T0NUWVBFIGh0bWw+CjxodG1sIDxtZXRhIGNoYXJzZXQ9InV0Zi04Ij46dXJsIiBjb250ZW50PSJodHRwOi8vLmNzcyIg",
    "cmVsPSJzdHlsZXNoZWV0InN0eWxlIHR5cGU9InRleHQvY3NzIj50eXBlPSJ0ZXh0L2NzcyIgaHJlZj0idzMub3JnLzE5",
    "OTkveGh0bWwiIHhtbHR5cGU9InRleHQvamF2YXNjcmlwdCIgbWV0aG9kPSJnZXQiIGFjdGlvbj0ibGluayByZWw9InN0",
    "eWxlc2hlZXQiICA9IGRvY3VtZW50LmdldEVsZW1lbnR0eXBlPSJpbWFnZS94LWljb24iIC8+Y2VsbHBhZGRpbmc9IjAi",
    "IGNlbGxzcC5jc3MiIHR5cGU9InRleHQvY3NzIiA8L2E+PC9saT48bGk+PGEgaHJlZj0iIiB3aWR0aD0iMSIgaGVpZ2h0",
    "PSIxIiI+PGEgaHJlZj0iaHR0cDovL3d3dy5zdHlsZT0iZGlzcGxheTpub25lOyI+YWx0ZXJuYXRlIiB0eXBlPSJhcHBs",
    "aS0vL1czQy8vRFREIFhIVE1MIDEuMCBlbGxzcGFjaW5nPSIwIiBjZWxscGFkIHR5cGU9ImhpZGRlbiIgdmFsdWU9Ii9h",
    "PiZuYnNwOzxzcGFuIHJvbGU9InMKPGlucHV0IHR5cGU9ImhpZGRlbiIgbGFuZ3VhZ2U9IkphdmFTY3JpcHQiICBkb2N1",
    "bWVudC5nZXRFbGVtZW50c0JnPSIwIiBjZWxsc3BhY2luZz0iMCIgeXBlPSJ0ZXh0L2NzcyIgbWVkaWE9InR5cGU9J3Rl",
    "eHQvamF2YXNjcmlwdCd3aXRoIHRoZSBleGNlcHRpb24gb2YgeXBlPSJ0ZXh0L2NzcyIgcmVsPSJzdCBoZWlnaHQ9IjEi",
    "IHdpZHRoPSIxIiA9JytlbmNvZGVVUklDb21wb25lbnQoPGxpbmsgcmVsPSJhbHRlcm5hdGUiIApib2R5LCB0ciwgaW5w",
    "dXQsIHRleHRtZXRhIG5hbWU9InJvYm90cyIgY29ubWV0aG9kPSJwb3N0IiBhY3Rpb249Ij4KPGEgaHJlZj0iaHR0cDov",
    "L3d3dy5jc3MiIHJlbD0ic3R5bGVzaGVldCIgPC9kaXY+PC9kaXY+PGRpdiBjbGFzc2xhbmd1YWdlPSJqYXZhc2NyaXB0",
    "Ij5hcmlhLWhpZGRlbj0idHJ1ZSI+wrc8cmlwdCIgdHlwZT0idGV4dC9qYXZhc2w9MDt9KSgpOwooZnVuY3Rpb24oKXti",
    "YWNrZ3JvdW5kLWltYWdlOiB1cmwoL2E+PC9saT48bGk+PGEgaHJlZj0iaAkJPGxpPjxhIGhyZWY9Imh0dHA6Ly9hdG9y",
    "IiBhcmlhLWhpZGRlbj0idHJ1PiA8YSBocmVmPSJodHRwOi8vd3d3Lmxhbmd1YWdlPSJqYXZhc2NyaXB0IiAvb3B0aW9u",
    "Pgo8b3B0aW9uIHZhbHVlL2Rpdj48L2Rpdj48ZGl2IGNsYXNzPXJhdG9yIiBhcmlhLWhpZGRlbj0idHJlPShuZXcgRGF0",
    "ZSkuZ2V0VGltZSgpcG9ydHVndcOqcyAoZG8gQnJhc2lsKdC+0YDQs9Cw0L3QuNC30LDRhtC40LjQstC+0LfQvNC+0LbQ",
    "vdC+0YHRgtGM0L7QsdGA0LDQt9C+0LLQsNC90LjRj9GA0LXQs9C40YHRgtGA0LDRhtC40LjQstC+0LfQvNC+0LbQvdC+",
    "0YHRgtC40L7QsdGP0LfQsNGC0LXQu9GM0L3QsA=="]

def length23 : List String :=
  ["PCFET0NUWVBFIGh0bWwgUFVCTElDICJudC1UeXBlIiBjb250ZW50PSJ0ZXh0LzxtZXRhIGh0dHAtZXF1aXY9IkNvbnRl",
    "cmFuc2l0aW9uYWwvL0VOIiAiaHR0cDo8aHRtbCB4bWxucz0iaHR0cDovL3d3dy0vL1czQy8vRFREIFhIVE1MIDEuMCBU",
    "RFREL3hodG1sMS10cmFuc2l0aW9uYWwvL3d3dy53My5vcmcvVFIveGh0bWwxL3BlID0gJ3RleHQvamF2YXNjcmlwdCc7",
    "PG1ldGEgbmFtZT0iZGVzY3JpcHRpb25wYXJlbnROb2RlLmluc2VydEJlZm9yZTxpbnB1dCB0eXBlPSJoaWRkZW4iIG5h",
    "anMiIHR5cGU9InRleHQvamF2YXNjcmkoZG9jdW1lbnQpLnJlYWR5KGZ1bmN0aXNjcmlwdCB0eXBlPSJ0ZXh0L2phdmFz",
    "aW1hZ2UiIGNvbnRlbnQ9Imh0dHA6Ly9VQS1Db21wYXRpYmxlIiBjb250ZW50PXRtbDsgY2hhcnNldD11dGYtOCIgLz4K",
    "bGluayByZWw9InNob3J0Y3V0IGljb248bGluayByZWw9InN0eWxlc2hlZXQiIDwvc2NyaXB0Pgo8c2NyaXB0IHR5cGU9",
    "PSBkb2N1bWVudC5jcmVhdGVFbGVtZW48YSB0YXJnZXQ9Il9ibGFuayIgaHJlZj0gZG9jdW1lbnQuZ2V0RWxlbWVudHNC",
    "aW5wdXQgdHlwZT0idGV4dCIgbmFtZT1hLnR5cGUgPSAndGV4dC9qYXZhc2NyaW5wdXQgdHlwZT0iaGlkZGVuIiBuYW1l",
    "aHRtbDsgY2hhcnNldD11dGYtOCIgLz5kdGQiPgo8aHRtbCB4bWxucz0iaHR0cC0vL1czQy8vRFREIEhUTUwgNC4wMSBU",
    "ZW50c0J5VGFnTmFtZSgnc2NyaXB0JylpbnB1dCB0eXBlPSJoaWRkZW4iIG5hbQ=="]

def length24 : List String :=
  ["PHNjcmlwdCB0eXBlPSJ0ZXh0L2phdmFzIiBzdHlsZT0iZGlzcGxheTpub25lOyI+ZG9jdW1lbnQuZ2V0RWxlbWVudEJ5",
    "SWQoPWRvY3VtZW50LmNyZWF0ZUVsZW1lbnQoJyB0eXBlPSd0ZXh0L2phdmFzY3JpcHQnaW5wdXQgdHlwZT0idGV4dCIg",
    "bmFtZT0iZC5nZXRFbGVtZW50c0J5VGFnTmFtZShzbmljYWwiIGhyZWY9Imh0dHA6Ly93d3cuQy8vRFREIEhUTUwgNC4w",
    "MSBUcmFuc2l0PHN0eWxlIHR5cGU9InRleHQvY3NzIj4KCjxzdHlsZSB0eXBlPSJ0ZXh0L2NzcyI+aW9uYWwuZHRkIj4K",
    "PGh0bWwgeG1sbnM9aHR0cC1lcXVpdj0iQ29udGVudC1UeXBlZGluZz0iMCIgY2VsbHNwYWNpbmc9IjAiaHRtbDsgY2hh",
    "cnNldD11dGYtOCIgLz4KIHN0eWxlPSJkaXNwbGF5Om5vbmU7Ij48PGxpPjxhIGhyZWY9Imh0dHA6Ly93d3cuIHR5cGU9",
    "J3RleHQvamF2YXNjcmlwdCc+0LTQtdGP0YLQtdC70YzQvdC+0YHRgtC40YHQvtC+0YLQstC10YLRgdGC0LLQuNC40L/R",
    "gNC+0LjQt9Cy0L7QtNGB0YLQstCw0LHQtdC30L7Qv9Cw0YHQvdC+0YHRgtC44KSq4KWB4KS44KWN4KSk4KS/4KSV4KS+",
    "4KSV4KS+4KSC4KSX4KWN4KSw4KWH4KS44KSJ4KSo4KWN4KS54KWL4KSC4KSo4KWH4KS14KS/4KSn4KS+4KSo4KS44KSt",
    "4KS+4KSr4KS/4KSV4KWN4KS44KS/4KSC4KSX4KS44KWB4KSw4KSV4KWN4KS34KS/4KSk4KSV4KWJ4KSq4KWA4KSw4KS+",
    "4KSH4KSf4KS14KS/4KSc4KWN4KSe4KS+4KSq4KSo4KSV4KS+4KSw4KWN4KSw4KS14KS+4KSI4KS44KSV4KWN4KSw4KS/",
    "4KSv4KSk4KS+"]

end StreamCodec.Brotli.Words
